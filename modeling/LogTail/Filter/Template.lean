import LogTail.Error

/-!
# Output templates

A template is a text in which `\0` to `\9` stand for the groups of a match. Two backslashes are one, and
a backslash before anything else is itself.

* `Template.print` writes a list of items as a text; reading the text gives the items back, with
  neighbouring literals merged and empty ones dropped.
-/

namespace LogTail

/-- A part of a template: a text, or the number of a group. -/
inductive Template.Item where
  | literal (text : String)
  | group (number : Nat)
  deriving DecidableEq

/-- The parts of a template in order. -/
structure Template where
  items : List Template.Item
  deriving DecidableEq

namespace Template

/-- A literal in front of items, unless it is empty; its characters stand last first. -/
def flush (literal : List Char) (items : List Item) : List Item :=
  if literal.isEmpty then items else .literal (String.ofList literal.reverse) :: items

/-- The items of a text; `literal` holds the characters since the last group, last first. -/
def itemsFrom (literal : List Char) : List Char → List Item
  | [] => flush literal []
  | '\\' :: '\\' :: rest => itemsFrom ('\\' :: literal) rest
  | '\\' :: d :: rest =>
    if d.isDigit then flush literal (.group (d.toNat - 0x30) :: itemsFrom [] rest)
    else itemsFrom (d :: '\\' :: literal) rest
  | c :: rest => itemsFrom (c :: literal) rest

def itemLimit : Nat := 64

def parse (text : String) : Except ConfigError Template :=
  let items := itemsFrom [] text.toList
  if itemLimit < items.length then .error .tooManyParameters else .ok ⟨items⟩

def Item.group? : Item → Option Nat
  | .literal _ => none
  | .group n => some n

def maxGroup (t : Template) : Nat := (t.items.filterMap Item.group?).foldl max 0

def Item.render (groups : List (Option String)) : Item → String
  | .literal text => text
  | .group n => (groups[n]?.getD none).getD ""

def render (t : Template) (groups : List (Option String)) : String :=
  String.join (t.items.map (Item.render groups))

def Item.print : Item → List Char
  | .literal text => text.toList.flatMap fun c => if c = '\\' then ['\\', '\\'] else [c]
  | .group n => ['\\', Char.ofNat (0x30 + n)]

def print (items : List Item) : String := String.ofList (items.flatMap Item.print)

end Template

end LogTail
