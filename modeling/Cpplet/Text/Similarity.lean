import Cpplet.Decimal.Binary64

/-!
# Likeness of words

Two words are alike as far as they share characters in about the same places. A character of one
matches an equal one of the other that lies less than half the longer length away and is not
matched yet. The likeness is the mean of three shares: of the first word that is matched, of the
second word that is matched, and of the matches that stand in the same order in both. It is a
floating-point number and every step of its computation is rounded, so a likeness of exactly seven
tenths may come out a little larger.
-/

namespace Cpplet.Text

open Decimal (Binary64)

/-- The first free place of a character between two bounds. -/
def matchAt (c : Char) (word : List Char) (taken : List Nat) (low high : Nat) : Option Nat :=
  (List.range word.length).find? fun place =>
    low ≤ place && place < high && word[place]? = some c && !taken.contains place

/-- The places of two words that match, in the order of the first. -/
def matchedPlaces (first second : List Char) : List (Nat × Nat) :=
  let reach := max first.length second.length / 2 - 1
  first.zipIdx.foldl (fun found (c, place) =>
    match matchAt c second (found.map Prod.snd) (place - reach) (place + reach + 1) with
    | some other => found ++ [(place, other)]
    | none => found) []

/-- How many matches stand in another order, two of them counted once. -/
def exchanged (first second : List Char) (found : List (Nat × Nat)) : Nat :=
  let inFirst := found.map fun (place, _) => first[place]?
  let inSecond := ((List.range second.length).filter (found.map Prod.snd).contains).map
    fun place => second[place]?
  ((inFirst.zip inSecond).filter fun (a, b) => a ≠ b).length / 2

/-- The likeness of two words, from zero to one. -/
def likeness (first second : List Char) : Binary64 :=
  let found := matchedPlaces first second
  let count := found.length
  if count = 0 then ⟨0⟩
  else
    let ordered := count - exchanged first second found
    let shares := ((Binary64.ofQuotient count first.length).add
      (Binary64.ofQuotient count second.length)).add (Binary64.ofQuotient ordered count)
    shares.divide 3

/-- The likeness above which words are taken for one another: seven tenths. -/
def threshold : Binary64 := Binary64.ofQuotient 7 10

/-- Whether one likeness is larger than another. Bits of numbers that are not negative count
upwards with the numbers. -/
def exceeds (one other : Binary64) : Bool := other.bits < one.bits

/-- The word of a list that is most like a word, if one is alike at all. Of several that are
equally alike it is the last. -/
def mostAlike? (word : String) (others : List String) : Option String :=
  let alike (other : String) := likeness word.toList other.toList
  (others.filter fun other => exceeds (alike other) threshold).foldl (fun best other =>
    match best with
    | some known => if exceeds (alike known) (alike other) then some known else some other
    | none => some other) none

end Cpplet.Text
