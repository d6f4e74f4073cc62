import Terralens.Text.Basic
import Terralens.Text.Quoted

/-!
# Hosts of web addresses

What may stand as the host of an address: a domain name, an IPv4 address in any of its
numeric forms, or an IPv6 address between brackets. Names outside ASCII are accepted when
their characters are assigned and visible; their encoded form has to decode to such a name.
-/

namespace Terralens.Url

inductive Problem where
  | relative
  | emptyHost
  | invalidName
  | invalidCharacter
  | invalidIpv4
  | invalidIpv6
  | invalidPort
deriving DecidableEq, Repr

def Problem.text : Problem → String
  | .relative => "relative URL without a base"
  | .emptyHost => "empty host"
  | .invalidName => "invalid international domain name"
  | .invalidCharacter => "invalid domain character"
  | .invalidIpv4 => "invalid IPv4 address"
  | .invalidIpv6 => "invalid IPv6 address"
  | .invalidPort => "invalid port number"

def hexDigit? (c : Char) : Option Nat :=
  if c.isDigit then some (c.toNat - '0'.toNat)
  else if 'a' ≤ c && c ≤ 'f' then some (c.toNat - 'a'.toNat + 10)
  else if 'A' ≤ c && c ≤ 'F' then some (c.toNat - 'A'.toNat + 10)
  else none

def numberOf (base : Nat) (ds : List Nat) : Nat := ds.foldl (fun n d => base * n + d) 0

/-! ### IPv4 -/

/-- What a part of an IPv4 address is: no number, a number too large for 32 bits, or one that
  fits. -/
inductive Ipv4Part where
  | no
  | tooLarge
  | value (n : Nat)
deriving DecidableEq

/-- Reads a part in decimal, in octal after `0`, or in hexadecimal after `0x`. -/
def ipv4Part (s : List Char) : Ipv4Part :=
  let (base, digits) :=
    match s with
    | '0' :: 'x' :: rest => (16, rest)
    | '0' :: 'X' :: rest => (16, rest)
    | '0' :: d :: rest => (8, d :: rest)
    | _ => (10, s)
  let ds := digits.filterMap hexDigit?
  if s.isEmpty || ds.length != digits.length || ds.any (base ≤ ·) then .no
  else
    let n := numberOf base ds
    if n < Nat.pow 2 32 then .value n else .tooLarge

/-- The parts of a name between its points, without an empty one at the end. -/
def nameParts (s : List Char) : List (List Char) :=
  let parts := Text.pieces '.' s
  if parts.length > 1 && parts.getLast? == some [] then parts.dropLast else parts

/-- Whether the last part of a name is a number, so that the name has to be an IPv4 address. -/
def endsInNumber (s : List Char) : Bool :=
  match (nameParts s).getLast? with
  | some last => !last.isEmpty && (last.all Char.isDigit || ipv4Part last != .no)
  | none => false

/-- Whether a name is an IPv4 address: up to four numbers, the last of which fills the
  bytes that are left. -/
def isIpv4 (s : List Char) : Bool :=
  let parts := (nameParts s).map ipv4Part
  let values := parts.filterMap fun
    | .value n => some n
    | _ => none
  parts.length ≤ 4 && values.length == parts.length &&
    match values.reverse with
    | [] => false
    | last :: before => last < Nat.pow 256 (4 - before.length) && before.all (· ≤ 255)

/-! ### IPv6 -/

/-- Whether a part is one of the four numbers at the end of an IPv6 address. -/
def isByte (s : List Char) : Bool :=
  !s.isEmpty && s.length ≤ 3 && s.all Char.isDigit && !(s.length > 1 && s.head? == some '0') &&
    numberOf 10 (s.filterMap hexDigit?) ≤ 255

/-- The number of 16-bit groups that a part of an IPv6 address fills; the last one may be
  four bytes. -/
def groupCount (last : Bool) (s : List Char) : Option Nat :=
  if !s.isEmpty && s.length ≤ 4 && s.all (hexDigit? · |>.isSome) then some 1
  else
    let bytes := Text.pieces '.' s
    if last && bytes.length == 4 && bytes.all isByte then some 2 else none

def groupsIn (last : Bool) : List (List Char) → Option Nat
  | [] => some 0
  | [s] => groupCount last s
  | s :: rest => do
      let n ← groupCount false s
      let m ← groupsIn last rest
      pure (n + m)

def splitAtGap : List Char → Option (List Char × List Char)
  | ':' :: ':' :: rest => some ([], rest)
  | c :: rest => (splitAtGap rest).map fun (before, after) => (c :: before, after)
  | [] => none

def sideGroups (last : Bool) (s : List Char) : Option Nat :=
  if s.isEmpty then some 0 else groupsIn last (Text.pieces ':' s)

/-- Whether a text is an IPv6 address: eight groups, or fewer with a gap of two colons. -/
def isIpv6 (s : List Char) : Bool :=
  match splitAtGap s with
  | none => groupsIn true (Text.pieces ':' s) == some 8
  | some (before, after) =>
      match sideGroups false before, sideGroups true after with
      | some n, some m => n + m ≤ 7
      | _, _ => false

/-! ### Names -/

def encodedDigit? (c : Char) : Option Nat :=
  if c.isLower then some (c.toNat - 'a'.toNat)
  else if c.isUpper then some (c.toNat - 'A'.toNat)
  else if c.isDigit then some (c.toNat - '0'.toNat + 26)
  else none

def adapt (delta count : Nat) (first : Bool) : Nat :=
  let delta := if first then delta / 700 else delta / 2
  let rec settle : Nat → Nat → Nat → Nat
    | 0, _, k => k
    | fuel + 1, d, k => if d > 455 then settle fuel (d / 35) (k + 36) else k + 36 * d / (d + 38)
  settle 32 (delta + delta / count) 0

/-- Reads one number of variable length: its value and the digits left. -/
def variableNumber (bias : Nat) : Nat → Nat → Nat → Nat → List Char → Option (Nat × List Char)
  | 0, _, _, _, _ => none
  | fuel + 1, k, weight, sum, s =>
      match s with
      | [] => none
      | c :: rest =>
          match encodedDigit? c with
          | none => none
          | some d =>
              let sum := sum + d * weight
              let limit := if k ≤ bias then 1 else if k ≥ bias + 26 then 26 else k - bias
              if d < limit then some (sum, rest)
              else variableNumber bias fuel (k + 36) (weight * (36 - limit)) sum rest

/-- The characters that the digits of an encoded name insert into `text`. Each number tells
  how far the next character is, counting every place in the text for every code point. -/
def decodeDigits : Nat → Nat → Nat → Nat → List Nat → List Char → Option (List Nat)
  | 0, _, _, _, _, _ => none
  | fuel + 1, code, start, bias, text, s =>
      if s.isEmpty then some text
      else
        match variableNumber bias (s.length + 1) 36 1 0 s with
        | none => none
        | some (delta, rest) =>
            let length := text.length + 1
            let code := code + (start + delta) / length
            let place := (start + delta) % length
            if code > 0x10FFFF then none
            else
              decodeDigits fuel code (place + 1) (adapt delta length (start == 0))
                (text.take place ++ code :: text.drop place) rest

/-- The code points of a name whose encoded form follows `xn--`. -/
def decodeName (s : List Char) : Option (List Nat) :=
  let tail := (s.reverse.takeWhile (· != '-')).reverse
  let basic := s.take (s.length - tail.length - 1)
  decodeDigits (s.length + 1) 128 0 72 (basic.map Char.toNat) tail

def isNameCode (n : Nat) : Bool :=
  160 < n && (Text.Property.standsAlone (Char.ofNat n) ||
    Text.Property.within Text.Property.extendingRanges n)

def isForbidden (c : Char) : Bool :=
  c.toNat ≤ 32 || c.toNat == 127 || "\"#%/:<>?@[\\]^`\x7b|\x7d".toList.contains c

def isLabel (s : List Char) : Bool :=
  match s.map Char.toLower with
  | 'x' :: 'n' :: '-' :: '-' :: rest =>
      match decodeName rest with
      | some codes =>
          !codes.isEmpty && codes.any (128 ≤ ·) && codes.all fun n => n < 128 || isNameCode n
      | none => false
  | _ => s.all fun c => if c.toNat < 128 then !isForbidden c else isNameCode c.toNat

def percentDecoded : List UInt8 → List UInt8
  | 37 :: a :: b :: rest =>
      match hexDigit? (Char.ofNat a.toNat), hexDigit? (Char.ofNat b.toNat) with
      | some x, some y => UInt8.ofNat (16 * x + y) :: percentDecoded rest
      | _, _ => 37 :: percentDecoded (a :: b :: rest)
  | b :: rest => b :: percentDecoded rest
  | [] => []

/-- Checks the host of an address whose scheme is one of the web's own. -/
def checkHost (s : List Char) : Except Problem Unit :=
  match s with
  | '[' :: rest =>
      if rest.getLast? == some ']' && isIpv6 rest.dropLast then .ok () else .error .invalidIpv6
  | _ =>
      let bytes := percentDecoded (String.ofList s).toUTF8.toList
      match String.fromUTF8? ⟨bytes.toArray⟩ with
      | none => .error .invalidName
      | some name =>
          let name := name.toList
          if !(Text.pieces '.' name).all isLabel then .error .invalidName
          else if name.isEmpty then .error .emptyHost
          else if endsInNumber name && !isIpv4 name then .error .invalidIpv4
          else .ok ()

def checkOpaqueHost (s : List Char) : Except Problem Unit :=
  match s with
  | '[' :: rest =>
      if rest.getLast? == some ']' && isIpv6 rest.dropLast then .ok () else .error .invalidIpv6
  | _ =>
      if s.any fun c => c.toNat == 0 || " #/:<>?@[\\]^|".toList.contains c then
        .error .invalidCharacter
      else .ok ()

end Terralens.Url
