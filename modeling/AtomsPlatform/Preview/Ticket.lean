import AtomsPlatform.Database.ManagedNames
import AtomsPlatform.Lib.Radix

/-!
# Preview tickets

`PreviewTicketSigner`: a preview is reached under a host whose first label is a ticket, the session and
the expiry in base 36 with a truncated MAC. `issue` makes the address of a session, and `verifyHost`
reads the session and the expiry back from a host.
-/

namespace AtomsPlatform.Preview
open Regex

section Text

/-- The digits in base 36. -/
def base36 : Radix.Alphabet UInt16 where
  symbols := Utf16.ofString "0123456789abcdefghijklmnopqrstuvwxyz"
  distinct := by decide
  two := by decide

/-- The hexadecimal digits. -/
def base16 : Radix.Alphabet Char where
  symbols := "0123456789abcdef".toList
  distinct := by decide
  two := by decide

/-- `-` -/
def hyphen : UInt16 := 45

/-- `.` -/
def dot : UInt16 := 46

/-- Letters from a to z, and digits. -/
def alphanumeric : RegularExpression UInt16 :=
  oneOf base36.symbols

/-- One label of a domain: `[a-z0-9](?:[a-z0-9-]{0,61}[a-z0-9])?` -/
def domainLabel : RegularExpression UInt16 :=
  alphanumeric * optional (atMost 61 (oneOf (hyphen :: base36.symbols)) * alphanumeric)

/-- The pattern of source `BaseDomainSchema`. -/
def baseDomainPattern : RegularExpression UInt16 :=
  (domainLabel * literal [dot]) * RegularExpression.star (domainLabel * literal [dot]) * domainLabel

/-- The pattern of a ticket: `/^[a-z0-9]{25}-[a-z0-9]{9}-[a-z0-9]{25}$/` -/
def ticketLabelPattern : RegularExpression UInt16 :=
  oneOf base36.symbols ^ 25 * (literal [hyphen] * (oneOf base36.symbols ^ 9 *
    (literal [hyphen] * oneOf base36.symbols ^ 25)))

/-- Source `TicketLabelSchema`. -/
def isTicketLabel (label : Utf16) : Bool :=
  label.length = 61 && ticketLabelPattern.rmatch label

end Text

/-- `Buffer.byteLength(text, "utf8")` -/
def byteLength (text : Utf16) : Nat :=
  ((Utf16.decode text).map Char.utf8Size).sum

/-- The functions that the tickets rest on: the lower-casing of strings, and `createHmac("sha256", …)`
    of a key and a message. -/
structure Primitives where
  lowerCase : Utf16.CaseMapping
  hmac : Utf16 → Utf16 → List UInt8

/-- Source `PreviewTicketError`, and the errors of schemas. -/
inductive TicketFailure where
  | invalidHost :
    (message : String) → TicketFailure
  | invalidSignature :
    (message : String) → TicketFailure
  | expiredTicket :
    (message : String) → TicketFailure
  | zod
deriving DecidableEq, Repr

/-- The message of an error that is thrown without one. -/
def invalidTicket : String :=
  "Invalid preview ticket"

/-- Source `PreviewTicketSigner`, as its constructor accepts it. -/
structure PreviewTicketSigner where
  secret : Utf16
  baseDomain : Utf16
  secure : Bool := true
  longSecret : 32 ≤ byteLength secret
  domain : 3 ≤ baseDomain.length ∧ baseDomain.length ≤ 253 ∧
    baseDomainPattern.rmatch baseDomain = true

variable (primitives : Primitives)

/-- The constructor of source `PreviewTicketSigner`. -/
def createSigner (secret baseDomain : Utf16) (secure : Bool := true) : Option PreviewTicketSigner :=
  let baseDomain := primitives.lowerCase.toLowerCase (Utf16.trim baseDomain)
  if longSecret : 32 ≤ byteLength secret then
    if domain : 3 ≤ baseDomain.length ∧ baseDomain.length ≤ 253 ∧
        baseDomainPattern.rmatch baseDomain = true then
      some { secret, baseDomain, secure, longSecret, domain }
    else none
  else none

section Encoding

/-- Source `bytesToBigInt`. -/
def bytesToBigInt (bytes : List UInt8) : Nat :=
  bytes.foldl (fun result byte => result * 256 + byte.toNat) 0

/-- `BigInt("0x…")`, of digits of either case. -/
def hexToBigInt (hex : List Char) : Nat :=
  base16.value (hex.map Char.toLower)

/-- Source `encodeUuidBase36`. -/
def encodeUuidBase36 (sessionId : String) : Utf16 :=
  let hex := sessionId.toList.filter fun c => c ≠ '-'
  base36.padStart 25 (base36.toText (hexToBigInt hex))

/-- Source `parseBase36`. -/
def parseBase36 (value : Utf16) : Option Nat :=
  if value.all fun character => character ∈ base36.symbols then some (base36.value value) else none

/-- The groups of a UUID, with hyphens between them. -/
def hyphenateUuid (hex : List Char) : List Char :=
  hex.take 8 ++ '-' :: (hex.drop 8).take 4 ++ '-' :: (hex.drop 12).take 4 ++
    '-' :: (hex.drop 16).take 4 ++ '-' :: hex.drop 20

/-- Source `SessionIdSchema`. -/
def isSessionId (sessionId : String) : Bool :=
  Database.uuidPattern.rmatch sessionId.toList

/-- Source `decodeUuidBase36`. -/
def decodeUuidBase36 (value : Utf16) : Option String :=
  match parseBase36 value with
  | none => none
  | some numeric =>
    if 2 ^ 128 - 1 < numeric then none
    else
      let sessionId := String.ofList (hyphenateUuid (base16.padStart 32 (base16.toText numeric)))
      if isSessionId sessionId then some sessionId else none

/-- `BigInt(expiresAt.getTime()).toString(36)` -/
def expiryText (expiresAt : Int) : Utf16 :=
  if expiresAt < 0 then hyphen :: base36.toText expiresAt.natAbs else base36.toText expiresAt.toNat

variable (signer : PreviewTicketSigner)

/-- Source `#signature`. -/
def PreviewTicketSigner.signature (sessionId : String) (expiryLabel : Utf16) : Utf16 :=
  let mac := (primitives.hmac signer.secret
    (Utf16.ofString sessionId ++ dot :: expiryLabel ++ dot :: signer.baseDomain)).take 16
  base36.padStart 25 (base36.toText (bytesToBigInt mac))

/-- The label of a ticket. -/
def ticketLabel (sessionLabel expiryLabel signature : Utf16) : Utf16 :=
  sessionLabel ++ hyphen :: expiryLabel ++ hyphen :: signature

/-- `Number.isSafeInteger` -/
def isSafeInteger (n : Int) : Bool :=
  n.natAbs ≤ 2 ^ 53 - 1

/-- The label that source `issue` puts in front of the domain. A date that is invalid has no time. -/
def PreviewTicketSigner.issueLabel (now : Int) (sessionId : String) (expiresAt : Option Int) :
    Except TicketFailure Utf16 :=
  if isSessionId sessionId = false then .error .zod
  else if expiresAt.any fun time => time ≤ now then
    .error (.expiredTicket "Preview expiry must be in the future")
  else
    match expiresAt with
    | none => .error (.invalidHost "Preview expiry is out of range")
    | some time =>
      if isSafeInteger time = false then .error (.invalidHost "Preview expiry is out of range")
      else
        let sessionLabel := encodeUuidBase36 sessionId
        let expiryLabel := base36.padStart 9 (expiryText time)
        if expiryLabel.length ≠ 9 then .error (.invalidHost "Preview expiry is out of range")
        else
          let label := ticketLabel sessionLabel expiryLabel
            (signer.signature primitives sessionId expiryLabel)
          if isTicketLabel label then .ok label else .error .zod

/-- The host of a label. -/
def PreviewTicketSigner.host (label : Utf16) : Utf16 :=
  label ++ dot :: signer.baseDomain

/-- The address with a label. -/
def PreviewTicketSigner.url (label : Utf16) : Utf16 :=
  Utf16.ofString (if signer.secure then "https://" else "http://") ++ signer.host label ++
    Utf16.ofString "/"

/-- Source `issue`. -/
def PreviewTicketSigner.issue (now : Int) (sessionId : String) (expiresAt : Option Int) :
    Except TicketFailure Utf16 :=
  (signer.issueLabel primitives now sessionId expiresAt).map signer.url

end Encoding

section Verification

/-- Source `VerifiedPreviewTicket`, with the time of the expiry. -/
structure VerifiedPreviewTicket where
  sessionId : String
  expiresAt : Int
deriving DecidableEq, Repr

/-- Whether a code unit is one of the digits 0 to 9. -/
def isDigit (u : UInt16) : Bool :=
  48 ≤ u.toNat && u.toNat ≤ 57

/-- `.replace(/:\d+$/, "")` -/
def removePort (host : Utf16) : Utf16 :=
  let digits := host.rtakeWhile isDigit
  match (host.rdropWhile isDigit).getLast? with
  | some last => if last = 58 ∧ digits ≠ [] then (host.rdropWhile isDigit).dropLast else host
  | none => host

/-- The host that is verified: trimmed, in lower case and without a port. -/
def normalizeHost (untrustedHost : Utf16) : Utf16 :=
  removePort (primitives.lowerCase.toLowerCase (Utf16.trim untrustedHost))

/-- `ticketLabel.split("-")`, for a label with three parts. -/
def splitTicket (label : Utf16) : Option (Utf16 × Utf16 × Utf16) :=
  match label.splitOn hyphen with
  | [sessionCandidate, expiryCandidate, signatureCandidate] =>
    some (sessionCandidate, expiryCandidate, signatureCandidate)
  | _ => none

/-- Source `verifyHost`. The signatures that are compared consist of ASCII characters, so their bytes
    are equal if they are. -/
def PreviewTicketSigner.verifyHost (signer : PreviewTicketSigner) (now : Int) (untrustedHost : Utf16) :
    Except TicketFailure VerifiedPreviewTicket :=
  let host := normalizeHost primitives untrustedHost
  let suffix := dot :: signer.baseDomain
  if ¬ suffix <:+ host then .error (.invalidHost invalidTicket)
  else
    let label := host.take (host.length - suffix.length)
    if isTicketLabel label = false then .error (.invalidHost invalidTicket)
    else
      match splitTicket label with
      | none => .error (.invalidHost invalidTicket)
      | some (sessionCandidate, expiryCandidate, signatureCandidate) =>
        match decodeUuidBase36 sessionCandidate, parseBase36 expiryCandidate with
        | some sessionId, some expiresAtMs =>
          if isSafeInteger expiresAtMs = false then .error (.invalidHost invalidTicket)
          else if signer.signature primitives sessionId expiryCandidate ≠ signatureCandidate then
            .error (.invalidSignature invalidTicket)
          else if (expiresAtMs : Int) ≤ now then .error (.expiredTicket "Preview ticket expired")
          else .ok ⟨sessionId, expiresAtMs⟩
        | _, _ => .error (.invalidHost invalidTicket)

end Verification

end AtomsPlatform.Preview
