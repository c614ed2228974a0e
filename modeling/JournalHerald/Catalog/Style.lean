import JournalHerald.Text.Lowercase

/-!
# Styles

The colour roles that a piece of a message can have on the display.

* `Style.color` is the default colour of a role;
* `Style.parse?` finds a role by its name, in any letter case.
-/

namespace JournalHerald

/-- A colour role. `error` marks placeholders without a value. -/
inductive Style where
  | default | information | notAvailable | name | warning | headline | friendly | error
  deriving DecidableEq, Repr, Inhabited

namespace Style

/-- Every role, in the order in which roles are listed to the user. -/
def all : List Style :=
  [.default, .information, .notAvailable, .name, .warning, .headline, .friendly, .error]

theorem mem_all (s : Style) : s ∈ all := by
  cases s <;> decide

/-- The name of a role. -/
def label : Style → Text
  | .default => "Default"
  | .information => "Information"
  | .notAvailable => "NotAvailable"
  | .name => "Name"
  | .warning => "Warning"
  | .headline => "Headline"
  | .friendly => "Friendly"
  | .error => "Error"

/-- The default colour of a role. -/
def color : Style → Text
  | .default => "#FF7000"
  | .information => "#70B0F0"
  | .notAvailable => "#FFCF00"
  | .name => "#F6CBFF"
  | .warning => "#FF0000"
  | .headline => "#FFFFFF"
  | .friendly => "#46CB30"
  | .error => "#FF4500"

/-- The role with a given name, in any letter case. -/
def parse? (s : Text) : Option Style :=
  let wanted := Text.lowercase s
  all.find? fun style => Text.lowercase style.label == wanted

/-- The role with a given default colour, in any letter case. -/
def ofColor? (s : Text) : Option Style :=
  let wanted := Text.lowercase s
  all.find? fun style => Text.lowercase style.color == wanted

/-- The role with exactly this name. -/
def ofLabel? (s : Text) : Option Style :=
  all.find? fun style => style.label == s

end Style

end JournalHerald
