/-!
# Punycode

Labels of a domain name in ASCII letters, digits and hyphens.  The ASCII characters of a label come
first; for the others, in the order of their code points, follows how far each is from the one
before it, in digits of base thirty-six whose thresholds adapt to the numbers seen so far.
-/

namespace Retrace

namespace Url

namespace Punycode

/-- The character of a digit. -/
def symbol (d : Nat) : Char :=
  if d < 26 then Char.ofNat (0x61 + d) else Char.ofNat (0x16 + d)

/-- The value of a digit. -/
def digit? (c : Char) : Option Nat :=
  if 'a' ≤ c && c ≤ 'z' then some (c.toNat - 0x61)
  else if '0' ≤ c && c ≤ '9' then some (c.toNat - 0x16)
  else none

/-- The threshold of the digit at `k`, which counts in steps of thirty-six. -/
def threshold (k bias : Nat) : Nat :=
  if k ≤ bias + 1 then 1 else if bias + 26 ≤ k then 26 else k - bias

/-- Divides a distance down until it is small; `k` counts the steps. -/
def settle (distance k : Nat) : Nat × Nat :=
  if 455 < distance then settle (distance / 35) (k + 36) else (distance, k)
termination_by distance

/-- The bias after a distance, for a label of which `count` characters are written. -/
def adapt (distance count : Nat) (first : Bool) : Nat :=
  let halved := if first then distance / 700 else distance / 2
  let (rest, k) := settle (halved + halved / count) 0
  k + 36 * rest / (rest + 38)

/-- The digits of a distance. -/
def distanceDigits (bias k distance : Nat) : List Char :=
  if distance < threshold k bias then [symbol distance]
  else
    let excess := distance - threshold k bias
    let width := 36 - threshold k bias
    symbol (threshold k bias + excess % width) :: distanceDigits bias (k + 36) (excess / width)
termination_by distance
decreasing_by
  have low : 1 ≤ threshold k bias := by unfold threshold; split <;> (try split) <;> omega
  have := Nat.div_le_self (distance - threshold k bias) (36 - threshold k bias)
  omega

/-- How far the writing of a label has come. -/
structure Progress where
  /-- The distance from the character written last. -/
  distance : Nat
  bias : Nat
  /-- The characters written so far. -/
  count : Nat
  /-- The digits written so far, the last one first. -/
  output : List Char

/-- Passes a character of the label while those of code point `code` are written. -/
def pass (code basic : Nat) (p : Progress) (c : Char) : Progress :=
  if c.toNat < code then { p with distance := p.distance + 1 }
  else if c.toNat = code then
    { distance := 0
      bias := adapt p.distance (p.count + 1) (p.count = basic)
      count := p.count + 1
      output := (distanceDigits p.bias 36 p.distance).reverse ++ p.output }
  else p

/-- Writes the characters of the given code points, which are in ascending order; those below
`next` are written already. -/
def passes (label : List Char) (basic : Nat) : Nat → List Nat → Progress → Progress
  | _, [], p => p
  | next, code :: codes, p =>
    let p := { p with distance := p.distance + (code - next) * (p.count + 1) }
    let p := label.foldl (pass code basic) p
    passes label basic (code + 1) codes { p with distance := p.distance + 1 }

/-- Puts a number into a list in ascending order that does not have it yet. -/
def insertOnce (n : Nat) : List Nat → List Nat
  | [] => [n]
  | m :: rest =>
    if n < m then n :: m :: rest else if n = m then m :: rest else m :: insertOnce n rest

/-- Whether a character is ASCII. -/
def isAscii (c : Char) : Bool := c.toNat < 0x80

/-- The form of a label in ASCII. -/
def encode (label : List Char) : List Char :=
  let basic := label.filter isAscii
  let codes := (label.filter fun c => !isAscii c).foldr (fun c codes => insertOnce c.toNat codes) []
  let p := passes label basic.length 0x80 codes ⟨0, 72, basic.length, []⟩
  basic ++ (if basic.isEmpty then [] else ['-']) ++ p.output.reverse

/-- A label that is being read. -/
structure Reading where
  label : List Char
  /-- The code point and the place of the character inserted last, as one running number. -/
  place : Nat
  code : Nat
  bias : Nat
  /-- The distance read so far, the weight of its next digit and the place of that digit. -/
  distance : Nat
  weight : Nat
  k : Nat

/-- The greatest number that a running number may reach. -/
def limit : Nat := 0xFFFFFFFF

/-- Takes in a digit. -/
def readDigit? (r : Reading) (c : Char) : Option Reading :=
  match digit? c with
  | none => none
  | some d =>
    let distance := r.distance + d * r.weight
    let t := threshold r.k r.bias
    if limit < distance then none
    else if t ≤ d then
      if limit < r.weight * (36 - t) then none
      else some { r with distance := distance, weight := r.weight * (36 - t), k := r.k + 36 }
    else
      let size := r.label.length + 1
      let place := r.place + distance
      let code := r.code + place / size
      if 0x10FFFF < code || (0xD800 ≤ code && code ≤ 0xDFFF) then none
      else
        let index := place % size
        some {
          label := r.label.take index ++ [Char.ofNat code] ++ r.label.drop index
          place := index + 1
          code := code
          bias := adapt distance size (r.place = 0)
          distance := 0
          weight := 1
          k := 36 }

/-- The ASCII characters of a label before its last hyphen, and the digits after it. -/
def splitBasic (text : List Char) : List Char × List Char :=
  let digits := (text.reverse.takeWhile (· ≠ '-')).reverse
  (text.take (text.length - digits.length - 1), digits)

/-- The label of a form in ASCII. -/
def decode? (text : List Char) : Option (List Char) :=
  let (basic, digits) := splitBasic text
  match digits.foldlM readDigit? ⟨basic, 0, 0x80, 72, 0, 1, 36⟩ with
  | some r => if r.k = 36 && basic.all isAscii then some r.label else none
  | none => none

end Punycode

end Url

end Retrace
