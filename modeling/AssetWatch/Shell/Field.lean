import AssetWatch.Shell.Pattern

/-!
# Splitting words into fields

A word whose parameters and commands have been replaced is a run of segments. What came out of
an unquoted replacement is split at separators: white space separates however much of it there
is, other separators each end a field. Quoted text makes a field even if it is empty.
-/

namespace AssetWatch.Shell

inductive Segment
  | text (text : Octets) (quoted splits : Bool)
  /-- between two parameters that stay apart -/
  | border (quoted : Bool)

/-- Stretches of text, with whether each is quoted. -/
abbrev Field := List (Octets × Bool)

namespace Field

def text (f : Field) : Octets := String.join (f.map (·.1))

def glyphs (f : Field) : List Glyph :=
  f.flatMap fun (text, quoted) => text.toList.map fun c => (c, quoted)

end Field

namespace Segment

/-- Without splitting. -/
def join (segments : List Segment) : Octets :=
  String.join <| segments.map fun
    | .text t _ _ => t
    | .border _ => " "

def glyphs (segments : List Segment) : List Glyph :=
  segments.flatMap fun
    | .text t quoted _ => t.toList.map fun c => (c, quoted)
    | .border _ => [(' ', true)]

/-- The fields that have been made, and the stretches of the one that goes on, each with the
last in front. -/
structure Splitting where
  done : List Field := []
  current : Field := []
  /-- the next field counts even if it is empty -/
  isOpen : Bool := false

namespace Splitting

def isStarted (s : Splitting) : Bool := s.current.any fun (t, quoted) => quoted || t ≠ ""

def close (s : Splitting) : Splitting :=
  { done := s.current.reverse :: s.done, current := [], isOpen := false }

def extend (s : Splitting) (t : Octets) (quoted : Bool) : Splitting :=
  if t = "" && !quoted then s else { s with current := (t, quoted) :: s.current }

/-- Drops separators behind the end of a field: white space, and one other separator if
`other`. -/
def absorb (isSeparator : Char → Bool) : (other : Bool) → List Char → List Char
  | _, [] => []
  | other, c :: rest =>
    if !isSeparator c then c :: rest
    else if c = ' ' || c = '\t' || c = '\n' then absorb isSeparator other rest
    else if other then absorb isSeparator false rest
    else c :: rest

theorem length_absorb (isSeparator : Char → Bool) (other : Bool) (cs : List Char) :
    (absorb isSeparator other cs).length ≤ cs.length := by
  induction cs generalizing other with
  | nil => simp [absorb]
  | cons c rest ih =>
    unfold absorb
    split
    · simp
    · split
      · exact Nat.le_succ_of_le (ih other)
      · split
        · exact Nat.le_succ_of_le (ih false)
        · simp

/-- Splits a text. -/
def split (isSeparator : Char → Bool) (s : Splitting) (cs : List Char) : Splitting :=
  match cs with
  | [] => s
  | c :: rest =>
    if !isSeparator c then
      let run := rest.takeWhile fun c => !isSeparator c
      (s.extend (String.ofList (c :: run)) false).split isSeparator
        (rest.dropWhile fun c => !isSeparator c)
    else
      let isBlank := c = ' ' || c = '\t' || c = '\n'
      if isBlank && !s.isStarted then s.split isSeparator rest
      else s.close.split isSeparator (absorb isSeparator isBlank rest)
termination_by cs.length
decreasing_by
  · exact Nat.lt_succ_of_le (List.dropWhile_sublist _).length_le
  · simp
  · exact Nat.lt_succ_of_le (length_absorb ..)

def add (isSeparator : Char → Bool) (s : Splitting) : Segment → Splitting
  | .text t quoted false => s.extend t quoted
  | .text t _ true => s.split isSeparator t.toList
  | .border true => { s.close with isOpen := true }
  | .border false => if s.isStarted then s.close else s

end Splitting

/-- The fields of a word. -/
def fields (separators : Octets) (segments : List Segment) : List Field :=
  let all := separators.toList
  let s := segments.foldl (Splitting.add all.contains) {}
  (if s.isStarted || s.isOpen then s.close else s).done.reverse

end Segment

end AssetWatch.Shell
