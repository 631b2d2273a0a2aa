import SqlGate.Proofs.Packet.Login

/-!
# Packets that are written again

A reader takes more than the writer of its packet writes: bytes behind the last field, a
length that is longer than it need be, fields that are missing, and bytes that are no text.
What it makes of them is always a packet that is written without a loss. So a packet that was
read and is written again is read as the same, and to do so once more changes no byte.
-/

namespace SqlGate

set_option autoImplicit false

/-- What can be read of these bytes is read again from what is written for it, and so the
bytes that are written for it stay as they are. -/
structure Normalizes {Packet : Type}
    (decode : Bytes → Except WireError Packet)
    (encode : Packet → Bytes)
    (payload : Bytes) : Prop where
  reread : ∀ packet, decode payload = .ok packet → decode (encode packet) = .ok packet
  idempotent : ∀ written,
    (decode payload).map encode = .ok written → (decode written).map encode = .ok written

theorem Normalizes.of_reread
    {Packet : Type}
    {decode : Bytes → Except WireError Packet}
    {encode : Packet → Bytes}
    {payload : Bytes}
    (reread : ∀ packet, decode payload = .ok packet → decode (encode packet) = .ok packet) :
    Normalizes decode encode payload where
  reread := reread
  idempotent := by
    intro written rewritten
    cases read : decode payload with
    | error problem =>
        rw [read] at rewritten
        cases rewritten
    | ok packet =>
        rw [read] at rewritten
        cases rewritten
        rw [reread packet read]
        rfl

theorem SwitchRequest.decode_ensures
    {payload : Bytes}
    {request : SwitchRequest}
    (decoded : decode payload = .ok request) :
    request.header = 0xFE ∧ Utf8.ZeroFree request.plugin := by
  apply Reader.of_runOn decoded
  unfold reader
  apply Reader.Ensures.next
  intro header afterHeader
  dsimp only
  split
  · rename_i marked
    apply Reader.Ensures.bind
    refine (Reader.textUntilZero_ensures _).mono ?_
    rintro plugin afterPlugin ⟨free, _⟩
    apply Reader.Ensures.next
    intro data _
    exact Reader.Ensures.pure ⟨marked, free⟩
  · exact Reader.Ensures.bind (Reader.Ensures.throw _ _)

/-- An answer that was read has nothing that a client with these abilities does not get. -/
theorem OkPacket.decode_ensures
    {payload : Bytes}
    {capabilities : Capabilities}
    {packet : OkPacket}
    (decoded : decode payload capabilities = .ok packet) :
    (packet.header = 0x00 ∨ packet.header = 0xFE) ∧ packet.received capabilities = packet := by
  apply Reader.of_runOn decoded
  unfold reader
  apply Reader.Ensures.next
  intro header afterHeader
  dsimp only
  split
  · rename_i marked
    rw [Bool.or_eq_true, decide_eq_true_eq, decide_eq_true_eq] at marked
    apply Reader.Ensures.next
    intro affectedRows _
    apply Reader.Ensures.next
    intro lastInsertId _
    cases speaks : capabilities.has .protocol41 with
    | true =>
        apply Reader.Ensures.next
        intro status _
        apply Reader.Ensures.next
        intro warnings _
        apply Reader.Ensures.next
        intro _ _
        apply Reader.Ensures.next
        intro info _
        exact Reader.Ensures.pure ⟨marked, if_pos speaks⟩
    | false =>
        apply Reader.Ensures.bind
        apply Reader.Ensures.pure
        apply Reader.Ensures.next
        intro info _
        exact Reader.Ensures.pure ⟨marked, by rw [received, speaks]; rfl⟩
  · exact Reader.Ensures.bind (Reader.Ensures.throw _ _)

theorem ErrPacket.decode_ensures
    {payload : Bytes}
    {capabilities : Capabilities}
    {packet : ErrPacket}
    (decoded : decode payload capabilities = .ok packet) :
    packet.header = 0xFF ∧ packet.marker.toNat < 256 ∧
      packet.received capabilities = packet := by
  apply Reader.of_runOn decoded
  unfold reader
  apply Reader.Ensures.next
  intro header afterHeader
  dsimp only
  split
  · rename_i marked
    apply Reader.Ensures.next
    intro code _
    cases speaks : capabilities.has .protocol41 with
    | true =>
        apply Reader.Ensures.next
        intro marker _
        apply Reader.Ensures.next
        intro sqlState _
        apply Reader.Ensures.bind
        apply Reader.Ensures.pure
        apply Reader.Ensures.next
        intro message _
        have oneByte : (Char.ofNat marker.toNat).toNat < 256 := by
          have small := marker.toNat_lt
          rw [Utf8.toNat_ofNat (Or.inl (by omega))]
          exact small
        exact Reader.Ensures.pure ⟨marked, oneByte, if_pos speaks⟩
    | false =>
        apply Reader.Ensures.bind
        apply Reader.Ensures.pure
        apply Reader.Ensures.next
        intro message _
        have plain : '#'.toNat < 256 := by decide
        exact Reader.Ensures.pure ⟨marked, plain, by rw [received, speaks]; rfl⟩
  · exact Reader.Ensures.bind (Reader.Ensures.throw _ _)

/-- Whatever the bytes and the client's abilities are, a packet that can be read is read again
from what is written for it. -/
theorem what_was_read_is_read_again (payload : Bytes) (capabilities : Capabilities) :
    Normalizes LoginPacket.decode LoginPacket.encode payload ∧
      Normalizes SwitchRequest.decode SwitchRequest.encode payload ∧
      Normalizes (OkPacket.decode · capabilities) (OkPacket.encode · capabilities) payload ∧
      Normalizes (ErrPacket.decode · capabilities) (ErrPacket.encode · capabilities) payload := by
  refine ⟨.of_reread ?login, .of_reread ?switch, .of_reread ?ok, .of_reread ?err⟩
  case login =>
    intro login decoded
    have legible := (LoginPacket.decode_ensures decoded).1
    rw [LoginPacket.decode_encode legible.writable, legible.received]
  case switch =>
    intro request decoded
    obtain ⟨header, free⟩ := SwitchRequest.decode_ensures decoded
    exact SwitchRequest.decode_encode header free
  case ok =>
    intro packet decoded
    obtain ⟨header, whole⟩ := OkPacket.decode_ensures decoded
    rw [OkPacket.decode_encode header capabilities, whole]
  case err =>
    intro packet decoded
    obtain ⟨header, marker, whole⟩ := ErrPacket.decode_ensures decoded
    rw [ErrPacket.decode_encode header marker capabilities, whole]

/-- A login whose reserved bytes are not zero and whose user's name is no text. The length of
its response takes three bytes, its database has no name, and bytes follow the plugin. -/
def looseLogin : Bytes :=
  [0x08, 0x02, 0x28, 0x00, 0xFF, 0xFF, 0xFF, 0x00, 0x21] ++ List.replicate 23 0x01 ++
    [0xC3, 0x00, 0xFC, 0x02, 0x00, 0x00, 0xFB, 0x00, 0x70, 0x00, 0x01, 0x02]

theorem loose_login_is_written_anew :
    ∃ login,
      LoginPacket.decode looseLogin = .ok login ∧
        login.encode ≠ looseLogin ∧
        LoginPacket.decode login.encode = .ok login := by
  have accepted : (LoginPacket.decode looseLogin).toOption = some
      { capabilities := ⟨0x00280208⟩
        username := "\uFFFD"
        authResponse := [0x00, 0xFB]
        plugin := some "p" } := by
    decide +kernel
  cases read : LoginPacket.decode looseLogin with
  | error problem =>
      rw [read] at accepted
      cases accepted
  | ok login =>
      rw [read] at accepted
      cases accepted
      exact ⟨_, rfl, by decide,
        (what_was_read_is_read_again looseLogin .none).1.reread _ read⟩

end SqlGate
