import InlineReview.Unicode.Combining
import InlineReview.Unicode.Joining

/-!
# Invisible joiners

Two characters that are not seen ask the letters around them to join or not to.  They may stand in
a label only where that makes a difference: behind a sign that takes the vowel from a letter, and
the one that keeps letters apart also between letters that would join.
-/

namespace InlineReview.Web

open Unicode

/-- The character that keeps letters apart. -/
def nonJoiner : Char := Char.ofNat 0x200C

/-- The character that joins letters. -/
def joiner : Char := Char.ofNat 0x200D

/-- The combining class of the signs that take the vowel from a letter. -/
def vowelKiller : Nat := 9

/-- Is the last character before a place a sign that takes the vowel from a letter?  The characters
before the place are given from the last one on. -/
def followsVowelKiller : (before : List Char) → Bool
  | [] => false
  | c :: _ => combiningClass c = vowelKiller

/-- Is the first character that is not transparent one that joins in the wanted way? -/
def meetsJoining (wanted : Joining) (s : List Char) : Bool :=
  match s.dropWhile fun c => joining c = .transparent with
  | [] => false
  | c :: _ => joining c = wanted || joining c = .both

/-- May a joiner stand between these characters?  Those before it are given from the last one
on. -/
def joinerFits (c : Char) (before after : List Char) : Bool :=
  followsVowelKiller before ||
    (c = nonJoiner && meetsJoining .following before && meetsJoining .preceding after)

/-- Do all joiners of a label fit where they stand? -/
def joinersFit : (before label : List Char) → Bool
  | _, [] => true
  | before, c :: r =>
    (if c = nonJoiner || c = joiner then joinerFits c before r else true) &&
      joinersFit (c :: before) r

end InlineReview.Web
