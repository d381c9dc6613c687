import Netqmon.Agent.Flow
import Netqmon.Lib.AssocWeight
import Netqmon.Lib.FaultMap

/-! # The flow verdict writer: data

The agent enforces decisions by writing verdicts into a BPF map keyed by exact flow keys. Several
flows may block one key; `BlockClaims` remembers all of them, so that the map value can be handed
to another owner when one flow is revoked. Verdict values are kept as records instead of their 64
bytes; every access to a map may fail (`Netqmon.Lib.FaultMap`). -/

namespace Netqmon.Agent.FlowVerdict.Model

open Agent.Flow Lib.FaultMap

/-! ### Data -/

def maxVerdictEntries : ℕ := 16384
def maxBlockClaims : ℕ := maxVerdictEntries * 2
def maxBlockOwnersPerAlias : ℕ := 16
def u64Max : ℕ := 2 ^ 64 - 1

structure VerdictIdentity where
  (flowHash policyHash : BitVec 128)
  clientMac : BitVec 48
deriving DecidableEq

structure BlockClaim where
  identity : VerdictIdentity
  (generation expiresMonotonicNs : ℕ)
  /-- A real observation of this tuple orientation takes precedence over a synthesized alias. -/
  observedOrientation : Bool
deriving DecidableEq

inductive Verdict
  | block
  | shape
deriving DecidableEq

/-- A decoded value of the verdict map. -/
structure VerdictValue where
  (expiresMonotonicNs generation : ℕ)
  identity : VerdictIdentity
  policyTag : ℕ
  verdict : Verdict
deriving DecidableEq

structure BlockClaims where
  aliases : AList fun _ : FlowKey => List BlockClaim
  (count nextExpiredSweepNs : ℕ)

def BlockClaims.empty : BlockClaims := ⟨∅, 0, 0⟩

/-- The claims registered at an alias. -/
def BlockClaims.at (registry : BlockClaims) (key : FlowKey) : List BlockClaim :=
  (registry.aliases.lookup key).getD []

/-- Client → remote endpoint, without the client's ephemeral port. -/
structure EndpointKey where
  (ipVersion protocol : UInt8)
  destinationPort : UInt16
  (sourceAddress destinationAddress : BitVec 128)
  clientMac : BitVec 48
deriving DecidableEq

structure PolicyStateValue where
  enabled : Bool
  generation : ℕ
deriving DecidableEq

/-- `available` is false for the writer without maps, whose operations all fail. -/
structure FlowVerdictWriter where
  (available ready : Bool)
  verdictMap : Table FlowKey VerdictValue
  endpointMap : Table EndpointKey VerdictValue
  policyStateMap : Table Unit PolicyStateValue
  blockClaims : BlockClaims

/-- A writer over opened maps; `abiMatches` says whether their sizes are the agent's. -/
def FlowVerdictWriter.new (abiMatches : Bool) (verdictMap : Table FlowKey VerdictValue)
    (endpointMap : Table EndpointKey VerdictValue) (policyStateMap : Table Unit PolicyStateValue) :
    FlowVerdictWriter :=
  ⟨true, abiMatches, verdictMap, endpointMap, policyStateMap, BlockClaims.empty⟩

def FlowVerdictWriter.unavailable : FlowVerdictWriter :=
  ⟨false, false, ⟨∅, []⟩, ⟨∅, []⟩, ⟨∅, []⟩, BlockClaims.empty⟩

/-! ### Identities -/

def hexDigit (c : Char) : Option ℕ :=
  if '0' ≤ c ∧ c ≤ '9' then some (c.toNat - '0'.toNat)
  else if 'a' ≤ c ∧ c ≤ 'f' then some (c.toNat - 'a'.toNat + 10)
  else if 'A' ≤ c ∧ c ≤ 'F' then some (c.toNat - 'A'.toNat + 10)
  else none

/-- `u8::from_str_radix` of two characters to base 16; a leading plus sign is accepted. -/
def u8FromStrRadix16 (a b : Char) : Option ℕ :=
  if a = '+' then hexDigit b
  else do return 16 * (← hexDigit a) + (← hexDigit b)

def isAscii (s : List Char) : Bool := s.all fun c => c.toNat < 128

def packBytes (w : ℕ) (bytes : List ℕ) : BitVec w :=
  BitVec.ofNat w (bytes.foldl (fun acc byte => 256 * acc + byte) 0)

def hexBytes : List Char → Option (List ℕ)
  | a :: b :: rest => do return (← u8FromStrRadix16 a b) :: (← hexBytes rest)
  | _ => some []

def flowIdentityHash (policyFlowId : String) : Except String (BitVec 128) :=
  if policyFlowId.toList.length ≠ 32 ∨ ¬ isAscii policyFlowId.toList then
    .error "policy flow identity must contain 128 bits"
  else
    match hexBytes policyFlowId.toList with
    | none => .error "policy flow identity is not hexadecimal"
    | some bytes => .ok (packBytes 128 bytes)

def macBytes : List Char → Except String (List ℕ)
  | a :: b :: c :: rest =>
    if c ≠ ':' then .error "client MAC is not colon-delimited hexadecimal"
    else
      match u8FromStrRadix16 a b with
      | none => .error "client MAC is not hexadecimal"
      | some byte => (macBytes rest).map (byte :: ·)
  | [a, b] =>
    match u8FromStrRadix16 a b with
    | none => .error "client MAC is not hexadecimal"
    | some byte => .ok [byte]
  | _ => .ok []

def clientMacIdentity (clientMac : String) : Except String (BitVec 48) :=
  if clientMac.toList.length ≠ 17 ∨ ¬ isAscii clientMac.toList then
    .error "client MAC must contain 48 bits"
  else (macBytes clientMac.toList).map (packBytes 48)

/-! ### Claims and values -/

/-- Everything but the hook agrees. -/
def sameObservedOrientation (key observed : FlowKey) : Bool :=
  key.ipVersion == observed.ipVersion && key.protocol == observed.protocol
    && key.direction == observed.direction && key.ifindex == observed.ifindex
    && key.sourceAddress == observed.sourceAddress
    && key.destinationAddress == observed.destinationAddress
    && key.sourcePort == observed.sourcePort && key.destinationPort == observed.destinationPort

def blockClaimMatchesValue (claim : BlockClaim) (value : VerdictValue) : Bool :=
  value.verdict == .block && value.generation == claim.generation
    && value.identity.flowHash == claim.identity.flowHash
    && value.identity.policyHash == claim.identity.policyHash
    && value.identity.clientMac == claim.identity.clientMac

/-- The rank of a claim in the election of the map value: observed orientation first, then being
the current owner. -/
def claimRank (current : Option VerdictValue) (claim : BlockClaim) : ℕ :=
  2 * claim.observedOrientation.toNat + (current.any (blockClaimMatchesValue claim)).toNat

/-- `max_by_key`: of several largest elements the last one. -/
def maxByRank (rank : BlockClaim → ℕ) : List BlockClaim → Option BlockClaim
  | [] => none
  | claim :: rest =>
    match maxByRank rank rest with
    | none => some claim
    | some best => if rank claim ≤ rank best then some best else some claim

def selectBlockClaim (claims : List BlockClaim) (current : Option VerdictValue) :
    Option BlockClaim :=
  maxByRank (claimRank current) claims

def latestExpiry (claims : List BlockClaim) : Option ℕ :=
  (claims.map (·.expiresMonotonicNs)).max?

def encodeBlockClaim (claim : BlockClaim) (claims : List BlockClaim) : VerdictValue :=
  { expiresMonotonicNs := (latestExpiry claims).getD claim.expiresMonotonicNs
    generation := claim.generation
    identity := claim.identity
    policyTag := 0
    verdict := .block }

/-! ### Staging and writing -/

/-- The decision taken for one alias. -/
structure Staged where
  key : FlowKey
  previous : Option VerdictValue
  claims : List BlockClaim
  next : Option VerdictValue

/-- The next claims and the next value of an alias, from its claims and its value. -/
abbrev Decision := FlowKey → List BlockClaim → Option VerdictValue →
  Except String (List BlockClaim × Option VerdictValue)

/-- The common loop of `install_owned_block` and `clear_aliases`: read the map value of each
alias, decide on its claims and its next value, and keep the running claim count. -/
def stage (registry : BlockClaims) (readError : String) (decision : Decision) :
    List FlowKey → ℕ → Table FlowKey VerdictValue →
      Except String (List Staged × ℕ) × Table FlowKey VerdictValue
  | [], count, map => (.ok ([], count), map)
  | key :: rest, count, map =>
    match map.lookup key with
    | (.error error, map') => (.error (readError ++ error), map')
    | (.ok previous, map') =>
      match decision key (registry.at key) previous with
      | .error error => (.error error, map')
      | .ok (claims, next) =>
        match stage registry readError decision rest
            (count - (registry.at key).length + claims.length) map' with
        | (.error error, map'') => (.error error, map'')
        | (.ok (staged, total), map'') => (.ok (⟨key, previous, claims, next⟩ :: staged, total), map'')

def debugStrings (errors : List String) : String :=
  "[" ++ ", ".intercalate (errors.map String.quote) ++ "]"

def stagedUpdates (staged : List Staged) : List (FlowKey × Option VerdictValue × Option VerdictValue) :=
  staged.map fun s => (s.key, s.previous, s.next)

def applyVerdictUpdates (map : Table FlowKey VerdictValue)
    (updates : List (FlowKey × Option VerdictValue × Option VerdictValue)) :
    Except String Unit × Table FlowKey VerdictValue :=
  match map.transact updates [] with
  | (.ok _, map') => (.ok (), map')
  | (.error (error, rollbackErrors), map') =>
    (.error ("write BPF flow verdict: " ++ error ++ "; rollback errors: "
      ++ debugStrings rollbackErrors), map')

end Netqmon.Agent.FlowVerdict.Model
