import SqlGate.Account

/-!
# Responses to a scramble

The response that a client makes of its password is as long as a hash, and an account with that
password takes it and no other. Whoever knows what the hash is hidden behind gets it back. The
response to another scramble is taken only if the two scrambles make one hash.
-/

namespace SqlGate

set_option autoImplicit false

structure Sha1.Collide (left right : Bytes) : Prop where
  distinct : left ≠ right
  same : digest left = digest right

namespace NativePassword

/-! ## Exclusive or -/

theorem byte_xor_xor_cancel (left right : UInt8) : left ^^^ right ^^^ right = left := by
  rw [UInt8.xor_assoc, UInt8.xor_self, UInt8.xor_zero]

theorem xor_comm (left right : Bytes) : xor left right = xor right left :=
  List.zipWith_comm_of_comm UInt8.xor_comm

theorem xor_xor_cancel {left right : Bytes} (same : left.length = right.length) :
    xor (xor left right) right = left := by
  induction left generalizing right with
  | nil => rfl
  | cons byte rest ih =>
      cases right with
      | nil => cases same
      | cons other others =>
          have shorter : rest.length = others.length := Nat.succ.inj same
          rw [xor, xor, List.zipWith_cons_cons, List.zipWith_cons_cons, byte_xor_xor_cancel]
          exact congrArg (byte :: ·) (ih shorter)

theorem xor_left_cancel
    {left right other : Bytes}
    (length : right.length = left.length)
    (lengthToo : other.length = left.length)
    (same : xor left right = xor left other) :
    right = other := by
  have back := xor_xor_cancel length
  rw [xor_comm right left, same, xor_comm left other, xor_xor_cancel lengthToo] at back
  exact back.symm

/-! ## Responses -/

theorem length_hash (password : String) : (hash password).length = 20 :=
  FixedBytes.length_toList _

theorem length_token (scramble hash : Bytes) : (token scramble hash).length = 20 :=
  FixedBytes.length_toList _

theorem length_xor_hash_token (password : String) (scramble : Bytes) :
    (xor (hash password) (token scramble (hash password))).length = 20 := by
  rw [xor, List.length_zipWith, length_hash, length_token]
  rfl

theorem length_response_le (password : String) (scramble : Bytes) :
    (response password scramble).length ≤ 20 := by
  unfold response
  split
  · exact Nat.zero_le 20
  · exact Nat.le_of_eq (length_xor_hash_token password scramble)

section Chosen

variable {password : String}
variable {scramble : Bytes}

theorem response_of_chosen (chosen : password.isEmpty = false) (scramble : Bytes) :
    response password scramble = xor (hash password) (token scramble (hash password)) := by
  rw [response, chosen]
  rfl

theorem length_response (chosen : password.isEmpty = false) (scramble : Bytes) :
    (response password scramble).length = 20 := by
  rw [response_of_chosen chosen]
  exact length_xor_hash_token password scramble

theorem response_ne_nil (chosen : password.isEmpty = false) (scramble : Bytes) :
    response password scramble ≠ [] := by
  intro empty
  have length := length_response chosen scramble
  rw [empty] at length
  cases length

/-- The guards against empty bytes reject nothing that the comparison would accept. -/
theorem verifies_iff (chosen : password.isEmpty = false) (answer : Bytes) :
    verifies password scramble answer = true ↔
      scramble ≠ [] ∧ answer = response password scramble := by
  have proves := response_ne_nil chosen scramble
  unfold verifies
  simp only [Bool.and_eq_true, Bool.not_eq_true', List.isEmpty_eq_false_iff, beq_iff_eq]
  constructor
  · rintro ⟨⟨challenged, _⟩, same⟩
    exact ⟨challenged, same.symm⟩
  · rintro ⟨challenged, rfl⟩
    exact ⟨⟨challenged, proves⟩, rfl⟩

theorem verifies_response
    (chosen : password.isEmpty = false)
    (challenged : scramble ≠ []) :
    verifies password scramble (response password scramble) = true :=
  (verifies_iff chosen _).mpr ⟨challenged, rfl⟩

/-- Whoever knows the hash of the hash finds the hash in a response. -/
theorem xor_response_token (chosen : password.isEmpty = false) (scramble : Bytes) :
    xor (response password scramble) (token scramble (hash password)) = hash password := by
  rw [response_of_chosen chosen]
  exact xor_xor_cancel ((length_hash password).trans (length_token _ _).symm)

theorem response_inj_iff (chosen : password.isEmpty = false) (scramble other : Bytes) :
    response password scramble = response password other ↔
      token scramble (hash password) = token other (hash password) := by
  rw [response_of_chosen chosen, response_of_chosen chosen]
  constructor
  · apply xor_left_cancel
    · exact (length_token _ _).trans (length_hash password).symm
    · exact (length_token _ _).trans (length_hash password).symm
  · intro same
    rw [same]

end Chosen

end NativePassword

/-! ## Accounts -/

namespace Account

open NativePassword

/-- An account takes the response that is made of its password, be it empty or not. -/
theorem verifies_response
    (account : Account)
    {scramble : Bytes}
    (challenged : scramble ≠ []) :
    account.verifies scramble (response account.password scramble) = true := by
  unfold verifies hasEmptyPassword
  cases empty : account.password.isEmpty with
  | true => simp [response, empty]
  | false => exact NativePassword.verifies_response empty challenged

theorem verifies_of_chosen
    {account : Account}
    (chosen : account.password.isEmpty = false)
    (scramble answer : Bytes) :
    account.verifies scramble answer = true ↔
      scramble ≠ [] ∧ answer = response account.password scramble := by
  rw [verifies, hasEmptyPassword, chosen]
  exact verifies_iff chosen answer

theorem verifies_of_empty
    {account : Account}
    (empty : account.password.isEmpty = true)
    (scramble answer : Bytes) :
    account.verifies scramble answer = true ↔ answer = [] := by
  rw [verifies, hasEmptyPassword, if_pos empty, List.isEmpty_iff]

/-- What an account with a password takes in answer to a scramble: one response, whole and with
nothing after it. -/
structure TakesOnly (account : Account) (scramble response : Bytes) : Prop where
  exactly : ∀ answer, account.verifies scramble answer = true ↔ answer = response
  whole : ∀ count, count < response.length → account.verifies scramble (response.take count) = false
  nothingMore : ∀ more, more ≠ [] → account.verifies scramble (response ++ more) = false

theorem TakesOnly.of_iff
    {account : Account}
    {scramble response : Bytes}
    (exactly : ∀ answer, account.verifies scramble answer = true ↔ answer = response) :
    account.TakesOnly scramble response where
  exactly := exactly
  whole count shorter := by
    apply eq_false_of_ne_true
    intro accepted
    have lengths := congrArg List.length ((exactly _).mp accepted)
    rw [List.length_take] at lengths
    omega
  nothingMore more some := by
    apply eq_false_of_ne_true
    intro accepted
    exact some (List.append_right_eq_self.mp ((exactly _).mp accepted))

/-- An account without a password takes the empty response and no other. An account with one
takes the response that hides its hash for the scramble that was put to the client, and no
other. The response to another scramble is taken just if the two make one token, and then two
messages have one hash. -/
theorem one_response_is_taken (account : Account) (scramble : Bytes) :
    let secret := NativePassword.hash account.password
    let stored := (Sha1.digest secret).toList
    (∀ answer,
      account.verifies scramble answer = true ↔
        (account.password = "" ∧ answer = []) ∨
        (account.password ≠ "" ∧ scramble ≠ [] ∧
          answer = NativePassword.xor secret (Sha1.digest (scramble ++ stored)).toList)) ∧
    (account.password ≠ "" → scramble ≠ [] →
      account.TakesOnly scramble (response account.password scramble) ∧
      NativePassword.xor (response account.password scramble)
          (Sha1.digest (scramble ++ stored)).toList = secret ∧
      ∀ other,
        (account.verifies scramble (response account.password other) = true ↔
          Sha1.digest (scramble ++ stored) = Sha1.digest (other ++ stored)) ∧
        (account.verifies scramble (response account.password other) = true → scramble ≠ other →
          Sha1.Collide (scramble ++ stored) (other ++ stored))) := by
  intro secret stored
  constructor
  · intro answer
    cases empty : account.password.isEmpty with
    | true =>
        have none := String.isEmpty_iff.mp empty
        rw [verifies_of_empty empty]
        simp [none]
    | false =>
        have some : account.password ≠ "" := by
          intro none
          rw [none] at empty
          cases empty
        rw [verifies_of_chosen empty, response_of_chosen empty]
        simp only [some, false_and, false_or, ne_eq, not_false_eq_true, true_and]
        rfl
  · intro some challenged
    have chosen : account.password.isEmpty = false := by
      apply eq_false_of_ne_true
      exact fun empty => some (String.isEmpty_iff.mp empty)
    have exactly : ∀ answer, account.verifies scramble answer = true ↔
        answer = response account.password scramble := by
      intro answer
      rw [verifies_of_chosen chosen]
      exact and_iff_right challenged
    refine ⟨.of_iff exactly, xor_response_token chosen scramble, ?_⟩
    intro other
    have replayed : account.verifies scramble (response account.password other) = true ↔
        Sha1.digest (scramble ++ stored) = Sha1.digest (other ++ stored) := by
      rw [exactly, eq_comm, response_inj_iff chosen]
      exact ⟨fun same => FixedBytes.ext same, fun same => congrArg FixedBytes.toList same⟩
    refine ⟨replayed, ?_⟩
    intro accepted differs
    exact ⟨fun same => differs (List.append_cancel_right same), replayed.mp accepted⟩

def keeper : Account where
  username := "keeper"
  password := "secret"

def keeperResponse : Bytes :=
  [0x04, 0xEC, 0xA2, 0x85, 0xCE, 0x66, 0xA0, 0xE0, 0x53, 0x65,
    0x55, 0x4A, 0xAE, 0xDA, 0xF9, 0x91, 0x92, 0xC6, 0x22, 0x3F]

/-- What the keeper answers to twenty ones is no answer to twenty twos, nor to no scramble. -/
theorem keeper_answers_one_scramble :
    let ones := List.replicate 20 1
    let twos := List.replicate 20 2
    let stored := (Sha1.digest (NativePassword.hash "secret")).toList
    keeper.password ≠ "" ∧ ones ≠ [] ∧ twos ≠ [] ∧
      keeper.TakesOnly ones keeperResponse ∧
      NativePassword.xor keeperResponse (Sha1.digest (ones ++ stored)).toList =
        NativePassword.hash "secret" ∧
      keeper.verifies twos keeperResponse = false ∧
      keeper.verifies [] keeperResponse = false := by
  intro ones twos stored
  have chosen : keeper.password ≠ "" := by decide
  have challenged : ones ≠ [] := by decide
  have challengedToo : twos ≠ [] := by decide
  -- One evaluation for both, so that the password is hashed once.
  have evaluated : response "secret" (List.replicate 20 1) = keeperResponse ∧
      token (List.replicate 20 2) (NativePassword.hash "secret") ≠
        token (List.replicate 20 1) (NativePassword.hash "secret") := by
    decide +kernel
  have computed : response keeper.password ones = keeperResponse := evaluated.1
  obtain ⟨only, back, -⟩ := (one_response_is_taken keeper ones).2 chosen challenged
  obtain ⟨-, -, replayed⟩ := (one_response_is_taken keeper twos).2 chosen challengedToo
  have unasked := (one_response_is_taken keeper []).1 keeperResponse
  rw [computed] at only back
  refine ⟨chosen, challenged, challengedToo, only, back, ?_, ?_⟩
  · apply eq_false_of_ne_true
    intro accepted
    rw [← computed] at accepted
    exact evaluated.2 (congrArg FixedBytes.toList ((replayed ones).1.mp accepted))
  · apply eq_false_of_ne_true
    intro accepted
    rcases unasked.mp accepted with ⟨none, -⟩ | ⟨-, some, -⟩
    · exact chosen none
    · exact some rfl

end Account

end SqlGate
