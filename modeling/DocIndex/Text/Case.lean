import DocIndex.Text.CaseData

/-!
# Lower-casing

`lower` is the full lower-case mapping of Unicode 14 applied to a whole text: each
character goes to its simple lower-case form, U+0130 goes to `i` followed by a combining
dot above, and a capital sigma becomes the final form `ς` exactly when a cased character
comes before it and none comes after it, case-ignorable characters being looked through
on both sides.
-/

namespace DocIndex.Text

/-- Binary search for the run whose code points span `code`, among positions `[low, high)`. -/
def findRun (runs : Array CaseRun) (code low high : Nat) : Option CaseRun :=
  if low < high then
    let middle := (low + high) / 2
    match runs[middle]? with
    | none => none
    | some run =>
      if code < run.first then
        findRun runs code low middle
      else if run.last < code then
        findRun runs code (middle + 1) high
      else
        some run
  else
    none
termination_by high - low

/-- The simple lower-case form of a character: itself when no run maps it. -/
def lowerSimple (c : Char) : Char :=
  match findRun lowerRuns c.toNat 0 lowerRuns.size with
  | some run =>
    if (c.toNat - run.first) % run.stride = 0 then
      Char.ofNat (Int.toNat (c.toNat + run.shift))
    else
      c
  | none => c

/-- The full lower-case form of a character other than the capital sigma. -/
def lowerChar (c : Char) : List Char :=
  if c = '\u0130' then ['i', '\u0307'] else [lowerSimple c]

/-- Whether the look for the sigma's context passes over a character. -/
def isCaseIgnorable (c : Char) : Bool :=
  caseIgnorableTable.contains c.toNat

/-- Whether a character that the look stops at counts as cased. -/
def isCasedStop (c : Char) : Bool :=
  casedTable.contains c.toNat

/--
The capital sigma takes its final form when, looking through case-ignorable characters,
the nearest character before it is cased and the nearest after it is not (or there is
none). `before` lists the preceding characters nearest first.
-/
def sigmaIsFinal (before after : List Char) : Bool :=
  (match before.dropWhile isCaseIgnorable with
    | c :: _ => isCasedStop c
    | [] => false) &&
  (match after.dropWhile isCaseIgnorable with
    | c :: _ => !isCasedStop c
    | [] => true)

/-- Lower-case `rest`, knowing the characters `before` it (nearest first). -/
def lowerFrom (before : List Char) : List Char → List Char
  | [] => []
  | c :: after =>
    (if c = 'Σ' then [if sigmaIsFinal before after then 'ς' else 'σ'] else lowerChar c) ++
      lowerFrom (c :: before) after

/-- The full lower-case form of a text. -/
def lower (text : String) : String :=
  String.ofList (lowerFrom [] text.toList)

end DocIndex.Text
