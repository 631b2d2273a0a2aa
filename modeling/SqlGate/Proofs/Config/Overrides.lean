import SqlGate.Proofs.Config.References
import SqlGate.Proofs.Text.Numeral

/-!
# Settings from variables

The gate's own variables replace five settings of a configuration. A text is taken as it stands
in its variable, also if it looks like a reference to another one. A number is taken if its
variable holds a numeral of it, and only as far as the setting has room; otherwise the setting
stays as it was.
-/

namespace SqlGate.Config

set_option autoImplicit false

/-- What a variable makes of a number that is kept in a type of some size. -/
structure Replaced {Number : Type}
    (toNat : Number → Nat)
    (size : Nat)
    (setting : Option String)
    (before after : Number) : Prop where
  taken : ∀ text number, setting = some text → Numeral.Writes text number → number < size →
    toNat after = number
  kept : (∀ text number, setting = some text → Numeral.Writes text number → size ≤ number) →
    after = before

structure Overridden (environment : Environment) (before after : Config) : Prop where
  listenAddress : after.server.listenAddress =
    (environment "DBPROXY_LISTEN_ADDRESS").getD before.server.listenAddress
  listenPort : Replaced UInt16.toNat UInt16.size (environment "DBPROXY_LISTEN_PORT")
    before.server.listenPort after.server.listenPort
  level : after.logging.level = (environment "DBPROXY_LOG_LEVEL").getD before.logging.level
  handshakeTimeoutSecs : Replaced UInt64.toNat UInt64.size
    (environment "DBPROXY_HANDSHAKE_TIMEOUT_SECS")
    before.server.handshakeTimeoutSecs after.server.handshakeTimeoutSecs
  maxConnections : Replaced UInt64.toNat UInt64.size (environment "DBPROXY_MAX_CONNECTIONS")
    before.server.maxConnections after.server.maxConnections
  serverVersion : after.server.serverVersion = before.server.serverVersion
  users : after.users = before.users
  schemas : after.schemas = before.schemas
  protocolDebug : after.logging.protocolDebug = before.logging.protocolDebug

theorem replaced_getD {Number : Type}
    {toNat : Number → Nat}
    {ofNat : Nat → Number}
    {size : Nat}
    (exact : ∀ number < size, toNat (ofNat number) = number)
    (setting : Option String)
    (before : Number) :
    Replaced toNat size setting before
      (((setting.bind (Numeral.below? size)).map ofNat).getD before) where
  taken := by
    rintro text number rfl writes within
    have read := Numeral.below?_eq_some.mpr ⟨writes, within⟩
    rw [Option.bind_some, read, Option.map_some, Option.getD_some, exact number within]
  kept := by
    intro ignored
    have unread : setting.bind (Numeral.below? size) = none := by
      rw [Option.bind_eq_none_iff]
      intro text set
      by_contra reads
      obtain ⟨number, read⟩ := Option.ne_none_iff_exists'.mp reads
      obtain ⟨writes, within⟩ := Numeral.below?_eq_some.mp read
      exact absurd within (Nat.not_lt.mpr (ignored text number set writes))
    rw [unread]
    rfl

section Override

variable (environment : Environment)
variable (config : Config)

theorem overridden : Overridden environment config (config.override environment) where
  listenAddress := rfl
  listenPort := replaced_getD (fun _ => UInt16.toNat_ofNat_of_lt) _ _
  level := rfl
  handshakeTimeoutSecs := replaced_getD (fun _ => UInt64.toNat_ofNat_of_lt) _ _
  maxConnections := replaced_getD (fun _ => UInt64.toNat_ofNat_of_lt) _ _
  serverVersion := rfl
  users := rfl
  schemas := rfl
  protocolDebug := rfl

/-- No other variable matters. -/
theorem override_congr
    {other : Environment}
    (same : ∀ name ∈ settingNames, other name = environment name) :
    config.override other = config.override environment := by
  simp only [settingNames, List.forall_mem_cons] at same
  obtain ⟨address, port, level, timeout, connections, _⟩ := same
  unfold override numberIn?
  rw [address, port, level, timeout, connections]

theorem override_override :
    (config.override environment).override environment = config.override environment := by
  simp only [override, ← Option.getD_or, Option.or_self]

/-- The file's own address is resolved before the gate's variable replaces it. -/
theorem listenAddress_of_finish
    {environment : Environment}
    {config final : Config}
    {reference : Reference}
    (finishes : finish environment config = .ok final)
    (reads : Reference.Reads config.server.listenAddress reference) :
    final.server.listenAddress =
      (environment "DBPROXY_LISTEN_ADDRESS").getD
        (reference.text environment config.server.listenAddress) := by
  obtain ⟨_, rfl⟩ := finish_eq_ok.mp finishes
  rw [(overridden environment (config.expanded environment)).listenAddress,
    ← expand_of_reads reads]
  rfl

end Override

/-- Only the gate's own variables matter, each replaces just its setting, and to replace them once
more changes nothing. An address that was loaded is the one in the gate's variable, as it stands
there, or else that of the file with its reference resolved. -/
theorem settings_follow_their_variables (environment : Environment) (config : Config) :
    Overridden environment config (config.override environment) ∧
    (∀ other : Environment, (∀ name ∈ settingNames, other name = environment name) →
      config.override other = config.override environment) ∧
    (config.override environment).override environment = config.override environment ∧
    ∀ text final, decode text = .ok config → ofText environment text = .ok final →
      ∃ reference,
        Reference.Reads config.server.listenAddress reference ∧
          final.server.listenAddress =
            (environment "DBPROXY_LISTEN_ADDRESS").getD
              (reference.text environment config.server.listenAddress) := by
  refine ⟨overridden environment config, ?_, override_override environment config, ?_⟩
  · intro other same
    exact override_congr environment config same
  · intro text final decoded loads
    obtain ⟨_, again, finishes⟩ := bind_eq_ok.mp loads
    cases decoded.symm.trans again
    obtain ⟨reference, reads⟩ := exists_reads config.server.listenAddress
    exact ⟨reference, reads, listenAddress_of_finish finishes reads⟩

def harbourText : String :=
  "server:\n listen_address: $HOST\n listen_port: 3307\nusers:\n- username: pilot\n"

/-- The port is the greatest that there is, and the timeout is too long by one. -/
def harbourEnvironment : Environment := fun name =>
  if name = "DBPROXY_LISTEN_ADDRESS" then some "$HOME"
  else if name = "DBPROXY_LISTEN_PORT" then some "+0065535"
  else if name = "DBPROXY_HANDSHAKE_TIMEOUT_SECS" then some "18446744073709551616"
  else if name = "HOME" then some "::1"
  else none

theorem harbour_listens_at_home :
    ∃ config final,
      decode harbourText = .ok config ∧
        ofText harbourEnvironment harbourText = .ok final ∧
        final.server.listenAddress = "$HOME" ∧
        (config.override harbourEnvironment).server.listenPort = 65535 ∧
        (config.override harbourEnvironment).server.handshakeTimeoutSecs = 30 ∧
        config.override (fun name => if name = "HOME" then none else harbourEnvironment name) =
          config.override harbourEnvironment := by
  have written : (decode harbourText).toOption.map
      (fun config => config.server.handshakeTimeoutSecs) = some 30 := by
    decide +kernel
  have accepts : (ofText harbourEnvironment harbourText).toOption.map (fun _ => ()) =
      some () := by
    decide +kernel
  obtain ⟨config, decoded, timeout⟩ := exists_ok_of_toOption written
  obtain ⟨final, loads, _⟩ := exists_ok_of_toOption accepts
  obtain ⟨settings, others, _, address⟩ := settings_follow_their_variables harbourEnvironment config
  obtain ⟨reference, _, listens⟩ := address harbourText final decoded loads
  have port : Numeral.Writes "+0065535" 65535 := .signed 2 65535
  have long : Numeral.Writes "18446744073709551616" UInt64.size :=
    Numeral.natural?_eq_some.mp (by decide +kernel)
  refine ⟨config, final, decoded, loads, listens, ?_, ?_, others _ ?_⟩
  · apply UInt16.toNat_inj.mp
    exact settings.listenPort.taken "+0065535" 65535 rfl port (by decide)
  · rw [← timeout]
    apply settings.handshakeTimeoutSecs.kept
    intro text number set writes
    cases set
    exact Nat.le_of_eq (long.unique writes)
  · decide

end SqlGate.Config
