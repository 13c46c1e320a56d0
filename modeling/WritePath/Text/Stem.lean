/-!
# English stems

The stem of an English word is what is left when the endings of its forms are removed: `running` and `runs`
have the stem `run`.  Words are given in small letters.

The rules look at the *regions* of a word.  The first one begins after the first consonant that follows a
vowel, the second one after the next such place; three beginnings of words have a region of their own.  A `y`
at the beginning of a word or after a vowel is a consonant; it is written as a capital while the rules are at
work.

The steps take endings away one after the other.  Of the endings that a step knows only the longest one counts
that the word has; if the condition on it does not hold, the step does nothing.  So the endings stand in the
tables with the longer ones first where one ends in another.
-/

namespace WritePath.Text.Stem

abbrev Letters := List Char

def isVowel (c : Char) : Bool :=
  ['a', 'e', 'i', 'o', 'u', 'y'].contains c

/-- Writes as capitals those `y` that are consonants; `afterVowel` says what stands before, and a word begins
as after a vowel. -/
def markConsonants (afterVowel : Bool) : Letters → Letters
  | [] => []
  | c :: rest =>
    let c := if c = 'y' && afterVowel then 'Y' else c
    c :: markConsonants (isVowel c) rest

/-- Takes the marks away. -/
def unmark (w : Letters) : Letters :=
  w.map (fun c => if c = 'Y' then 'y' else c)

/-! ## Regions -/

/-- How many letters stand before the place after the first consonant that follows a vowel. -/
def region (w : Letters) : Nat :=
  let afterVowel := (w.dropWhile (fun c => !isVowel c)).drop 1
  match afterVowel.dropWhile isVowel with
  | [] => w.length
  | _ :: rest => w.length - rest.length

/-- Beginnings of words after which the first region begins. -/
def beginnings : List String :=
  ["gener", "commun", "arsen"]

/-- Where the regions of a word begin. -/
structure Regions where
  first : Nat
  second : Nat

def Regions.of (w : Letters) : Regions :=
  let first := match beginnings.find? (fun b => b.toList.isPrefixOf w) with
    | some b => b.length
    | none => region w
  ⟨first, first + region (w.drop first)⟩

/-! ## Endings -/

/-- The first of some endings that a word has, with the letters before it. -/
def ending? (endings : List String) (w : Letters) : Option (Letters × String) :=
  (endings.find? (fun e => e.toList.isSuffixOf w)).map (fun e => (w.take (w.length - e.length), e))

def endsIn (letters : Letters) (w : Letters) : Bool :=
  w.getLast?.any letters.contains

/-- The word ends in a short syllable: a vowel between two consonants, the second one of them none of `w`, `x`
and `Y`, or a vowel at the beginning and a consonant. -/
def isShort (w : Letters) : Bool :=
  match w.reverse with
  | [c, v] => !isVowel c && isVowel v
  | c :: v :: b :: _ => !isVowel c && !(['w', 'x', 'Y'].contains c) && isVowel v && !isVowel b
  | _ => false

def shorten (w : Letters) : Letters :=
  w.dropLast

/-- Replaces an ending, given what for, if the letters before it pass a test. -/
def replace (table : List (String × String)) (test : Letters → String → Bool) (w : Letters) : Letters :=
  match ending? (table.map (·.1)) w with
  | none => w
  | some (before, e) =>
    if test before e then before ++ ((table.find? (·.1 == e)).map (·.2.toList)).getD [] else w

/-! ## Steps -/

/-- Plurals and what looks like them. -/
def plural (w : Letters) : Letters :=
  match ending? ["sses", "ied", "ies", "us", "ss", "s"] w with
  | some (before, "sses") => before ++ ['s', 's']
  | some (before, "ied") | some (before, "ies") =>
    if 2 ≤ before.length then before ++ ['i'] else before ++ ['i', 'e']
  | some (before, "s") => if before.dropLast.any isVowel then before else w
  | _ => w

/-- Words that are left alone after their plurals are gone. -/
def finished : List String :=
  ["inning", "outing", "canning", "herring", "earring", "proceed", "exceed", "succeed"]

/-- What an ending of a past or a participle leaves: an `e` comes back, or a doubled letter becomes single. -/
def restore (r : Regions) (w : Letters) : Letters :=
  match ending? ["at", "bl", "iz", "bb", "dd", "ff", "gg", "mm", "nn", "pp", "rr", "tt"] w with
  | some (_, "at") | some (_, "bl") | some (_, "iz") => w ++ ['e']
  | some _ => shorten w
  | none => if w.length = r.first && isShort w then w ++ ['e'] else w

/-- Pasts and participles. -/
def past (r : Regions) (w : Letters) : Letters :=
  match ending? ["eedly", "ingly", "edly", "eed", "ing", "ed"] w with
  | some (before, "eedly") | some (before, "eed") =>
    if r.first ≤ before.length then before ++ ['e', 'e'] else w
  | some (before, _) => if before.any isVowel then restore r before else w
  | none => w

/-- A `y` after a consonant that is not the first letter. -/
def finalY (w : Letters) : Letters :=
  match w.reverse with
  | c :: b :: _ :: _ => if (c = 'y' || c = 'Y') && !isVowel b then shorten w ++ ['i'] else w
  | _ => w

/-- Letters that an adverb may have before its ending. -/
def beforeLi : Letters :=
  ['c', 'd', 'e', 'g', 'h', 'k', 'm', 'n', 'r', 't']

/-- Long endings in the first region, and what they become. -/
def longEndings : List (String × String) :=
  [("ational", "ate"), ("fulness", "ful"), ("iveness", "ive"), ("ization", "ize"), ("ousness", "ous"),
   ("biliti", "ble"), ("lessli", "less"), ("tional", "tion"), ("alism", "al"), ("aliti", "al"),
   ("ation", "ate"), ("entli", "ent"), ("fulli", "ful"), ("iviti", "ive"), ("ousli", "ous"),
   ("abli", "able"), ("alli", "al"), ("anci", "ance"), ("ator", "ate"), ("enci", "ence"), ("izer", "ize"),
   ("bli", "ble"), ("ogi", "og"), ("li", "")]

/-- Shortens a long ending. -/
def long (r : Regions) : Letters → Letters :=
  replace longEndings fun before e =>
    r.first ≤ before.length
      && (e != "ogi" || endsIn ['l'] before) && (e != "li" || endsIn beforeLi before)

/-- Endings of adjectives and nouns in the first region, and what they become. -/
def middleEndings : List (String × String) :=
  [("ational", "ate"), ("tional", "tion"), ("alize", "al"), ("ative", ""), ("icate", "ic"), ("iciti", "ic"),
   ("ical", "ic"), ("ness", ""), ("ful", "")]

/-- Shortens an ending of an adjective or a noun. -/
def middle (r : Regions) : Letters → Letters :=
  replace middleEndings fun before e =>
    r.first ≤ before.length && (e != "ative" || r.second ≤ before.length)

/-- Endings that go altogether in the second region. -/
def lastEndings : List (String × String) :=
  ["ement", "able", "ance", "ence", "ible", "ment", "ant", "ate", "ent", "ion", "ism", "iti", "ive", "ize",
   "ous", "al", "er", "ic"].map (·, "")

/-- Removes an ending in the second region. -/
def last (r : Regions) : Letters → Letters :=
  replace lastEndings fun before e =>
    r.second ≤ before.length && (e != "ion" || endsIn ['s', 't'] before)

/-- A final `e`, and the second of two `l`. -/
def silent (r : Regions) (w : Letters) : Letters :=
  match ending? ["e", "l"] w with
  | some (before, "e") =>
    if r.second ≤ before.length || (r.first ≤ before.length && !isShort before) then before else w
  | some (before, "l") => if r.second ≤ before.length && endsIn ['l'] before then before else w
  | _ => w

/-! ## Words -/

/-- Words with stems of their own. -/
def irregular : List (String × String) :=
  [("skis", "ski"), ("skies", "sky"), ("dying", "die"), ("lying", "lie"), ("tying", "tie"), ("idly", "idl"),
   ("gently", "gentl"), ("ugly", "ugli"), ("early", "earli"), ("only", "onli"), ("singly", "singl"),
   ("sky", "sky"), ("news", "news"), ("howe", "howe"), ("atlas", "atlas"), ("cosmos", "cosmos"),
   ("bias", "bias"), ("andes", "andes")]

def regular (w : Letters) : Letters :=
  let w := markConsonants true w
  let r := Regions.of w
  let w := plural w
  let w := if finished.contains (String.ofList w) then w
    else silent r (last r (middle r (long r (finalY (past r w)))))
  unmark w

end Stem

/-- The stem of a word; two letters are a stem. -/
def stem (w : List Char) : List Char :=
  match Stem.irregular.find? (fun p => p.1.toList == w) with
  | some (_, s) => s.toList
  | none => if w.length ≤ 2 then w else Stem.regular w

example : ["running", "generously", "ponies", "hopped", "hoping", "agreed", "saying"].map
    (fun w => String.ofList (stem w.toList)) = ["run", "generous", "poni", "hop", "hope", "agre", "say"] := by
  decide +kernel

end WritePath.Text
