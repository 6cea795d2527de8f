import NamedConditions.Markup.Piece
import NamedConditions.Markup.Style
import NamedConditions.Text.Blank
import NamedConditions.Text.Cells
/-!
What markup shows. A tag shows nothing; with an odd number of backslashes before it, it shows
itself, and of the backslashes before a tag every second one is shown. A tag that starts with a
slash closes one that is open and says the same. A backslash before any other opening bracket is not
shown, and neither are five control characters; a tab is a blank that fills its line up to a tab
stop.

Main statement: a text without tabs needs no filling.
-/
namespace NamedConditions.Markup

/-- A tag at a place that closes what is not open. -/
structure Unopened where
  tag : List Char
  place : Nat

namespace Unopened

/-- The name of a closing tag, without its slash. -/
def name (u : Unopened) : List Char := Text.strip (u.tag.tail.takeWhile (· ≠ '='))

/-- The reason in words. -/
def message (u : Unopened) : String :=
  if u.name.isEmpty then
    "closing tag '[/]' at position " ++ toString u.place ++ " has nothing to close"
  else
    "closing tag '[" ++ String.ofList u.tag ++ "]' at position " ++ toString u.place ++
      " doesn't match any open tag"

end Unopened

/-- Why markup cannot be shown. -/
inductive Problem
  | unopened (u : Unopened)
  /-- A part of a color is no number. -/
  | noNumber

/-- The normal form of the name of a tag. -/
def tagName (name : List Char) : Except Problem String :=
  match normalName name with
  | .ok name => .ok name
  | .error _ => .error .noNumber

/-- The name of a tag and its parameters, which stand behind an equals sign. -/
def tagParts (content : List Char) : List Char × Option (List Char) :=
  match Text.cut? '=' content with
  | some (name, parameters) => (name, some parameters)
  | none => (content, none)

/-- The names of the open tags, innermost first, after a tag. A closing tag without a name closes
the innermost one. -/
def openAfter (opened : List String) (place : Nat) (content : List Char) :
    Except Problem (List String) :=
  match (tagParts content).1 with
  | '/' :: closing =>
    if (Text.strip closing).isEmpty then
      match opened with
      | [] => .error (.unopened ⟨content, place⟩)
      | _ :: rest => .ok rest
    else
      match tagName closing with
      | .error p => .error p
      | .ok name =>
        if name ∈ opened then .ok (opened.erase name) else .error (.unopened ⟨content, place⟩)
  | name => (tagName name).map (· :: opened)

/-- Puts characters in front of what is shown. -/
def prepend (front : List Char) : Except Problem (List Char) → Except Problem (List Char) :=
  Except.map (front ++ ·)

/-- What pieces show, given the open tags and the place of the first piece. -/
def shown (opened : List String) (place : Nat) : List Piece → Except Problem (List Char)
  | [] => .ok []
  | .char '\\' :: .char '[' :: ps => prepend ['['] (shown opened (place + 2) ps)
  | .char c :: ps => prepend [c] (shown opened (place + 1) ps)
  | .tag slashes content :: ps =>
    let behind := place + slashes + content.length + 2
    let kept := List.replicate (slashes / 2) '\\'
    if slashes % 2 = 1 then
      prepend (kept ++ '[' :: content ++ [']']) (shown opened behind ps)
    else
      match openAfter opened (place + slashes) content with
      | .error p => .error p
      | .ok opened => prepend kept (shown opened behind ps)

/-- Whether a control character is never shown. -/
def isDropped (c : Char) : Bool := c.toNat ∈ [7, 8, 11, 12, 13]

/-- The distance of the cells up to which tabs fill. -/
def tabStop : Nat := 8

/-- The number of blanks for a tab: one, and those that fill up to the next tab stop. -/
def tabWidth (g : Text.Gauge) : Nat :=
  let behind := (g.add ' ').cells
  1 + (tabStop - behind % tabStop) % tabStop

/-- The cell behind a tab. -/
def behindTab (g : Text.Gauge) : Nat := (g.add ' ').cells + (tabWidth g - 1)

/-- Fills tabs with blanks, given what was measured of the line before. -/
def expandTabs (g : Text.Gauge) : List Char → List Char
  | [] => []
  | c :: s =>
    if c = '\n' then c :: expandTabs (.ofCell 0) s
    else if c = '\t' then
      List.replicate (tabWidth g) ' ' ++ expandTabs (.ofCell (behindTab g)) s
    else c :: expandTabs (g.add c) s

/-- The style that an opening tag asks for: its name with its parameters as further words. -/
def styleName (content : List Char) : Except Problem String :=
  match tagParts content with
  | ('/' :: _, _) | (_, none) => .ok ""
  | (name, some parameters) =>
    (tagName name).bind fun name => tagName (name.toList ++ ' ' :: parameters)

/-- Checks the styles for which pieces ask. -/
def checkStyles : List Piece → Except Problem Unit
  | [] => .ok ()
  | .char _ :: ps => checkStyles ps
  | .tag slashes content :: ps =>
    if slashes % 2 = 1 then checkStyles ps
    else (styleName content).bind fun _ => checkStyles ps

/-- The line that markup shows. -/
def display (markup : String) : Except Problem String := do
  let s ← shown [] 0 (pieces markup.toList)
  checkStyles (pieces markup.toList)
  return String.ofList (expandTabs (.ofCell 0) (s.filter fun c => !isDropped c) ++ ['\n'])

theorem expandTabs_of_not_mem {s : List Char} (h : '\t' ∉ s) (g : Text.Gauge) :
    expandTabs g s = s := by
  induction s generalizing g with
  | nil => rfl
  | cons c s ih =>
    have hc : c ≠ '\t' := fun e => h (by simp [e])
    have hs : '\t' ∉ s := fun hm => h (List.mem_cons_of_mem c hm)
    unfold expandTabs
    split
    · rw [ih hs]
    · simp [ih hs]

end NamedConditions.Markup
