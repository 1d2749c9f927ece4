import CypherBatch.Text.Hex
import CypherBatch.Text.LowerCase
import CypherBatch.Text.Percent
import CypherBatch.Text.Punycode
import CypherBatch.Text.Split
import CypherBatch.Text.Word

/-!
# Hosts

The host of an address is an address of four decimal numbers, an address of
eight hexadecimal numbers in brackets, or a name.  A name in ASCII is put into
lower case and encoded; a name with other letters is written label by label in
ASCII.  `Host.normalize?` gives the host as it is sent, if it is one.
-/

namespace CypherBatch
namespace Host

/-! ## Four decimal numbers -/

/--
How far a host has been recognized as four runs of digits with one character
between two of them: `2 * n` before and `2 * n + 1` inside the run after `n`.
-/
def numericSteps (c : Char) (step : Nat) : List Nat :=
  (if c.isDigit then [step / 2 * 2 + 1] else []) ++
    (if step % 2 = 1 ∧ step < 7 then [step + 1] else [])

/-- Is the host four runs of digits, whatever stands between them? -/
def isNumeric (host : List Char) : Bool :=
  (host.foldl (fun steps c => (steps.flatMap (numericSteps c)).eraseDups) [0]).contains 7

/-- Is this a number below 256 without needless zeros? -/
def isOctet (cs : List Char) : Bool :=
  !cs.isEmpty && cs.all Char.isDigit && cs.length ≤ 3 && (cs = ['0'] || cs.head? ≠ some '0') &&
    cs.foldl (fun n c => n * 10 + (c.toNat - 48)) 0 < 256

/-- Is the host four such numbers with points between them? -/
def isFourOctets (host : List Char) : Bool :=
  let parts := Text.splitOn ['.'] host
  parts.length = 4 && parts.all isOctet

/-! ## Eight hexadecimal numbers -/

/-- Is this a hexadecimal number of one to four digits? -/
def isHextet (cs : List Char) : Bool :=
  !cs.isEmpty && cs.length ≤ 4 && cs.all fun c => (Text.hexValue? c).isSome

/-- The parts with a last one of four decimal numbers taken for two hexadecimal ones. -/
def widenLast? (parts : List (List Char)) : Option (List (List Char)) :=
  match parts.getLast? with
  | some last =>
      if !last.contains '.' then some parts
      else if isFourOctets last then some (parts.dropLast ++ [['0'], ['0']])
      else none
  | none => some parts

/-- Do the parts before or behind a gap fill it up to the end of the address? -/
def isSide (parts : List (List Char)) : Bool :=
  parts = [[]] || parts.all isHextet

/-- How many numbers the parts before or behind a gap are. -/
def sideLength (parts : List (List Char)) : Nat :=
  if parts = [[]] then 0 else parts.length

/-- Are these the parts of eight numbers, of which one run of zeros may be left out? -/
def areHextets (parts : List (List Char)) : Bool :=
  let inner := (List.range parts.length).filter fun i =>
    0 < i && i + 1 < parts.length && (parts.getD i []).isEmpty
  match inner with
  | [] => parts.length = 8 && parts.all isHextet
  | [i] =>
      let before := parts.take i
      let behind := parts.drop (i + 1)
      isSide before && isSide behind && sideLength before + sideLength behind < 8
  | _ => false

/-- The address and the zone behind a percent sign, which may not be empty. -/
def withoutZone? (cs : List Char) : Option (List Char) :=
  match cs.dropWhile (· ≠ '%') with
  | [] => some cs
  | _ :: zone =>
      if zone.isEmpty || zone.contains '%' then none else some (cs.takeWhile (· ≠ '%'))

def isEightHextets (cs : List Char) : Bool :=
  match withoutZone? cs with
  | none => false
  | some cs =>
      let parts := Text.splitOn [':'] cs
      3 ≤ parts.length &&
        match widenLast? parts with
        | some parts => parts.length ≤ 9 && areHextets parts
        | none => false

/-! ## Names -/

/-- The characters of an ASCII name that need no encoding. -/
def staysInName (c : Char) : Bool :=
  c.isAlphanum || "-._~!$&'()*+,;=\"`\x7b\x7d%|\\".toList.contains c

/-- Letters and numbers that are another spelling of plainer ones; a name may not hold them. -/
def compatibility : Text.Ranges := [
  (0xAA, 0xAA), (0xB2, 0xB3), (0xB5, 0xB5), (0xB9, 0xBA), (0xBC, 0xBE), (0x17F, 0x17F),
  (0x2070, 0x209F), (0x2100, 0x2188), (0x2460, 0x24FF), (0x3200, 0x33FF), (0xF900, 0xFAFF),
  (0xFB00, 0xFDFF), (0xFE70, 0xFEFC), (0xFF00, 0xFFEF), (0x1D400, 0x1D7FF)]

/-- May a label hold this character? -/
def isLabelChar (c : Char) : Bool :=
  if c.toNat < 128 then c.isLower || c.isDigit || c = '-'
  else Text.isWord c && !compatibility.contains c.toNat

/-- Are the hyphens of a label where they may be? -/
def hyphensFit (label : List Char) : Bool :=
  label.head? ≠ some '-' && label.getLast? ≠ some '-' && (label.drop 2).take 2 ≠ ['-', '-']

/-- What a label in ASCII that stands for another one begins with. -/
def asciiMark : List Char := "xn--".toList

def asciiLabel? (label : List Char) : Option (List Char) :=
  let fits := !label.isEmpty && hyphensFit label && label.all isLabelChar
  if label.all fun c => c.toNat < 128 then
    let marked := asciiMark.isPrefixOf label && 4 < label.length && label.getLast? ≠ some '-'
    if (fits || marked) && label.length ≤ 63 then some label else none
  else
    let encoded := asciiMark ++ Text.Punycode.encode label
    if fits && encoded.length ≤ 63 then some encoded else none

/-- The points that may stand between labels. -/
def isLabelPoint (c : Char) : Bool :=
  c = '.' || c = '\u3002' || c = '\uff0e' || c = '\uff61'

/-- A name with letters beyond ASCII, in ASCII; a point may stand at its end. -/
def asciiName? (name : List Char) : Option (List Char) := do
  let labels := Text.splitOn ['.'] (name.map fun c => if isLabelPoint c then '.' else c)
  let trailing := labels.getLast? = some []
  let encoded ← (if trailing then labels.dropLast else labels).mapM asciiLabel?
  let text := List.intercalate ['.'] (if trailing then encoded ++ [[]] else encoded)
  if encoded.isEmpty || (if trailing then 254 else 253) < text.length then none else some text

def normalize? (host : List Char) : Option (List Char) :=
  if isNumeric host then
    if isFourOctets host then some host else none
  else if host.head? = some '[' && host.getLast? = some ']' then
    let inner := (host.drop 1).dropLast
    if isEightHextets inner then some inner else none
  else
    let lower := host.map Text.lowerCase
    if host.all fun c => c.toNat < 128 then some (Text.percentEncode staysInName lower)
    else asciiName? lower

/-- Numbers out of range, an address in brackets with a gap, and a name with an umlaut. -/
example :
    normalize? "127.0.0.256".toList = none ∧
    normalize? "[::1]".toList = some "::1".toList ∧
    normalize? "DB".toList = some "db".toList ∧
    normalize? "Bücher.de".toList = some "xn--bcher-kva.de".toList := by
  decide +kernel

end Host
end CypherBatch
