/-!
# How similar two names are

The similarity of Jaro and Winkler, as an exact fraction: characters match when they are equal and not too far apart, and
matches out of order and names that begin alike count.
-/

namespace TypedStatement.Text
set_option autoImplicit false

/-- A fraction; the denominator is not zero. -/
structure Ratio where
  numerator : Nat
  denominator : Nat

/-- Whether the first fraction is greater. -/
def Ratio.exceeds (a b : Ratio) : Bool :=
  b.numerator * a.denominator < a.numerator * b.denominator

/-- Marks the first free character of the text that matches, counted from `index`, between `low` and `high`. -/
def matchFrom (c : Char) (low high index : Nat) : List (Char × Bool) → Option (List (Char × Bool))
  | [] => none
  | (d, used) :: rest =>
    if high ≤ index then none
    else if low ≤ index && c == d && !used then some ((d, true) :: rest)
    else (matchFrom c low high (index + 1) rest).map ((d, used) :: ·)

/-- Matches the characters from `index` on, each with the first that is left; answers those that have a match, and the
other text with its matches marked. -/
def matchAll (reach : Nat) (index : Nat) (text : List Char) (other : List (Char × Bool)) :
    List Char × List (Char × Bool) :=
  match text with
  | [] => ([], other)
  | c :: rest =>
    match matchFrom c (index - reach) (index + reach + 1) 0 other with
    | some marked =>
      let (found, final) := matchAll reach (index + 1) rest marked
      (c :: found, final)
    | none => matchAll reach (index + 1) rest other

/-- The similarity without regard to how the texts begin. -/
def jaro (a b : List Char) : Ratio :=
  match a.length, b.length with
  | 0, 0 => ⟨1, 1⟩
  | m, n =>
    let (found, marked) := matchAll (max m n / 2 - 1) 0 a (b.map (·, false))
    let opposite := (marked.filter (·.2)).map (·.1)
    let k := found.length
    if k = 0 then ⟨0, 1⟩
    else
      let swapped := ((found.zip opposite).countP fun (c, d) => c != d) / 2
      ⟨k * k * n + k * k * m + (k - swapped) * m * n, 3 * m * n * k⟩

/-- The number of characters with which both texts begin. -/
def commonStart : List Char → List Char → Nat
  | a :: as, b :: bs => if a = b then commonStart as bs + 1 else 0
  | _, _ => 0

/-- The similarity of two texts; of texts that are quite similar, the more so the longer they begin alike, up to four
characters. -/
def similarity (a b : List Char) : Ratio :=
  let plain := jaro a b
  if plain.exceeds ⟨7, 10⟩ then
    let alike := min (commonStart a b) 4
    ⟨10 * plain.numerator + alike * (plain.denominator - plain.numerator), 10 * plain.denominator⟩
  else plain

/-- The most similar of the names, the first of them if several are, if it is similar enough. -/
def suggestion (name : String) (known : List String) : Option String :=
  (known.foldl (fun best candidate =>
    let score := similarity name.toList candidate.toList
    if score.exceeds (best.map (·.2) |>.getD ⟨4, 5⟩) then some (candidate, score) else best) none).map (·.1)

end TypedStatement.Text
