/-
# ModelExport.Target — output targets

The closed set of targets. Each has a canonical name, perhaps aliases, and but
for the target that generates nothing a family: a program is spelled from its
parts, a template is filled. Names are matched without regard to the case of
ASCII letters.
-/

set_option autoImplicit false

namespace ModelExport

/-- An output target. -/
inductive Target where
  | none
  | java
  | csharp
  | javascript
  | mql4
  | ninjascript
deriving DecidableEq

/-- How a target's documents are made. -/
inductive Family where
  /-- A program is spelled part by part. -/
  | program
  /-- The values of a script are put into a fixed template. -/
  | template
deriving DecidableEq

def Family.name : Family → String
  | .program => "program"
  | .template => "template"

namespace Target

/-- Every target, in the order in which they are listed. -/
def all : List Target := [.none, .java, .csharp, .javascript, .mql4, .ninjascript]

/-- The canonical name. -/
def name : Target → String
  | .none => "none"
  | .java => "java"
  | .csharp => "csharp"
  | .javascript => "javascript"
  | .mql4 => "mql4"
  | .ninjascript => "ninjascript"

def aliases : Target → List String
  | .none => ["nogeneration"]
  | .java => []
  | .csharp => ["cs", "c#"]
  | .javascript => ["js"]
  | .mql4 => ["mq4"]
  | .ninjascript => ["ninja"]

/-- The extension of generated files, without the dot. -/
def extension? : Target → Option String
  | .none => Option.none
  | .java => some "java"
  | .csharp => some "cs"
  | .javascript => some "js"
  | .mql4 => some "mq4"
  | .ninjascript => some "cs"

def family? : Target → Option Family
  | .none => Option.none
  | .java => some .program
  | .csharp => some .program
  | .javascript => some .program
  | .mql4 => some .template
  | .ninjascript => some .template

def description : Target → String
  | .none => "No code generation."
  | .java => "Java class with a static main method."
  | .csharp => "C# class with a static Main method."
  | .javascript => "Browser JavaScript object with an entry function."
  | .mql4 => "MetaTrader 4 indicator from a canned template."
  | .ninjascript => "NinjaTrader indicator from a canned template."

/-- The name of a target as a tag. -/
def tag : Target → String
  | .none => "NoGeneration"
  | .java => "Java"
  | .csharp => "CSharp"
  | .javascript => "JavaScript"
  | .mql4 => "Mql4"
  | .ninjascript => "NinjaScript"

/-- A text with its ASCII letters in lower case. -/
def lowered (text : String) : String := .ofList (text.toList.map Char.toLower)

/-- The target with a given name or alias. -/
def ofName? (text : String) : Option Target :=
  all.find? fun target => target.name == lowered text || target.aliases.contains (lowered text)

end Target

end ModelExport
