/-!
# Capabilities

Server and client each announce what they can do as a word of 32 flags. Flags
that have no name here are carried along unchanged.
-/

namespace SqlGate

set_option autoImplicit false

inductive Capability where
  | longPassword
  | foundRows
  | longFlag
  | connectWithDb
  | noSchema
  | compress
  | odbc
  | localFiles
  | ignoreSpace
  | protocol41
  | interactive
  | ssl
  | ignoreSigpipe
  | transactions
  | reserved
  | secureConnection
  | multiStatements
  | multiResults
  | psMultiResults
  | pluginAuth
  | connectAttributes
  | lengthEncodedAuth
  | expiredPasswords
  | sessionTrack
  | deprecateEof
deriving DecidableEq, Repr

namespace Capability

/-- The flags in the order of their bits, from the lowest. -/
def all : List Capability :=
  [longPassword, foundRows, longFlag, connectWithDb, noSchema, compress, odbc, localFiles,
    ignoreSpace, protocol41, interactive, ssl, ignoreSigpipe, transactions, reserved,
    secureConnection, multiStatements, multiResults, psMultiResults, pluginAuth,
    connectAttributes, lengthEncodedAuth, expiredPasswords, sessionTrack, deprecateEof]

def bit (flag : Capability) : Nat := all.idxOf flag

def name : Capability → String
  | longPassword => "CLIENT_LONG_PASSWORD"
  | foundRows => "CLIENT_FOUND_ROWS"
  | longFlag => "CLIENT_LONG_FLAG"
  | connectWithDb => "CLIENT_CONNECT_WITH_DB"
  | noSchema => "CLIENT_NO_SCHEMA"
  | compress => "CLIENT_COMPRESS"
  | odbc => "CLIENT_ODBC"
  | localFiles => "CLIENT_LOCAL_FILES"
  | ignoreSpace => "CLIENT_IGNORE_SPACE"
  | protocol41 => "CLIENT_PROTOCOL_41"
  | interactive => "CLIENT_INTERACTIVE"
  | ssl => "CLIENT_SSL"
  | ignoreSigpipe => "CLIENT_IGNORE_SIGPIPE"
  | transactions => "CLIENT_TRANSACTIONS"
  | reserved => "CLIENT_RESERVED"
  | secureConnection => "CLIENT_SECURE_CONNECTION"
  | multiStatements => "CLIENT_MULTI_STATEMENTS"
  | multiResults => "CLIENT_MULTI_RESULTS"
  | psMultiResults => "CLIENT_PS_MULTI_RESULTS"
  | pluginAuth => "CLIENT_PLUGIN_AUTH"
  | connectAttributes => "CLIENT_CONNECT_ATTRS"
  | lengthEncodedAuth => "CLIENT_PLUGIN_AUTH_LENENC_CLIENT_DATA"
  | expiredPasswords => "CLIENT_CAN_HANDLE_EXPIRED_PASSWORDS"
  | sessionTrack => "CLIENT_SESSION_TRACK"
  | deprecateEof => "CLIENT_DEPRECATE_EOF"

def mask (flag : Capability) : UInt32 := 1 <<< UInt32.ofNat flag.bit

end Capability

structure Capabilities where
  bits : UInt32
deriving DecidableEq, Repr, Inhabited

namespace Capabilities

def none : Capabilities := ⟨0⟩

def has (capabilities : Capabilities) (flag : Capability) : Bool :=
  capabilities.bits.toNat.testBit flag.bit

def ofList (flags : List Capability) : Capabilities :=
  ⟨flags.foldl (fun word flag => word ||| flag.mask) 0⟩

/-- What the server announces: neither TLS nor compression. -/
def serverDefault : Capabilities :=
  ofList [.longPassword, .foundRows, .longFlag, .connectWithDb, .protocol41, .transactions,
    .secureConnection, .multiStatements, .multiResults, .psMultiResults, .pluginAuth,
    .lengthEncodedAuth]

def toList (capabilities : Capabilities) : List Capability :=
  Capability.all.filter capabilities.has

def unnamed (capabilities : Capabilities) : UInt32 :=
  capabilities.bits &&& ~~~(ofList Capability.all).bits

def without (capabilities other : Capabilities) : UInt32 :=
  capabilities.bits &&& ~~~other.bits

/-- A greeting carries the word in two halves. -/
def lower (capabilities : Capabilities) : UInt16 := capabilities.bits.toUInt16

def upper (capabilities : Capabilities) : UInt16 := (capabilities.bits >>> 16).toUInt16

def ofHalves (lower upper : UInt16) : Capabilities :=
  ⟨upper.toUInt32 <<< 16 ||| lower.toUInt32⟩

theorem ofHalves_lower_upper (capabilities : Capabilities) :
    ofHalves capabilities.lower capabilities.upper = capabilities := by
  have bound := capabilities.bits.toNat_lt
  have width : (16 : UInt32).toNat % 32 = 16 := rfl
  cases capabilities with
  | mk bits =>
      simp only [ofHalves, lower, upper, mk.injEq]
      apply UInt32.toNat_inj.mp
      simp only [UInt32.toNat_or, UInt32.toNat_shiftLeft, UInt16.toNat_toUInt32,
        UInt32.toNat_toUInt16, UInt32.toNat_shiftRight, width]
      apply Nat.eq_of_testBit_eq
      intro place
      simp only [Nat.testBit_or, Nat.testBit_mod_two_pow, Nat.testBit_shiftLeft,
        Nat.testBit_shiftRight]
      by_cases low : place < 16
      · have notHigh : ¬ 16 ≤ place := by omega
        simp [low, notHigh]
      · have shifted : 16 + (place - 16) = place := by omega
        by_cases inside : place < 32
        · have half : place - 16 < 16 := by omega
          simp_all
        · have outside : bits.toNat.testBit place = false := by
            apply Nat.testBit_lt_two_pow
            exact Nat.lt_of_lt_of_le bound (Nat.pow_le_pow_right (by decide) (by omega))
          simp_all

/-- The server speaks the 4.1 protocol and offers no TLS. -/
theorem serverDefault_protocol41 :
    serverDefault.has .protocol41 = true ∧ serverDefault.has .ssl = false := by
  decide

end Capabilities

end SqlGate
