import RuleReview.Language
import RuleReview.Text.Search

/-! Telling the language and the frameworks of a file from its path and its text. A
known extension decides about the language, then a hint, then the text. -/

namespace RuleReview.Language

inductive Clue
  | has (part : String)
  | all (clues : List Clue)
  | any (clues : List Clue)

mutual

def Clue.holds (code : List Char) : Clue → Bool
  | .has part => Text.occurs part.toList code
  | .all clues => Clue.allHold code clues
  | .any clues => Clue.anyHolds code clues

/-- Whether all clues are found. -/
def Clue.allHold (code : List Char) : List Clue → Bool
  | [] => true
  | c :: cs => c.holds code && Clue.allHold code cs

def Clue.anyHolds (code : List Char) : List Clue → Bool
  | [] => false
  | c :: cs => c.holds code || Clue.anyHolds code cs

end

/-- Clues for languages in the order in which they are tried. -/
def clues : List (String × Clue) := [
  ("javascript", .all [.has "function", .any [.has "var ", .has "let ", .has "const "]]),
  ("python", .all [.has "def ", .has "import "]),
  ("csharp", .all [.has "using ", .has "namespace "]),
  ("java", .any [.has "public class", .has "private ", .has "public static void main"]),
  ("php", .has "<?php"),
  ("go", .all [.has "func ", .has "package "])]

/-- The language of a text, or the given one where no clue is found. -/
def ofCode (code : List Char) (fallback : String) : String :=
  match clues.find? fun e => e.2.holds code with
  | some e => e.1
  | none => normalize fallback

def givenPath? (path : Option String) : Option Path :=
  path.bind fun p => if p == "" then none else some (Path.ofString p)

def resolve (code : List Char) (hint path : Option String) (fallback : String) : String :=
  match (givenPath? path).bind ofPath? with
  | some l => l
  | none =>
    match hint with
    | some h => if Text.isBlankText h then ofCode code fallback else normalize h
    | none => ofCode code fallback

def frameworkMarks : List (String × List String) := [
  ("react", ["from 'react'", "from \"react\"", "from react", "import React", "require('react')",
    "require(\"react\")"]),
  ("django", ["from django", "import django"]),
  ("express", ["express()", "require('express')", "require(\"express\")", "from 'express'",
    "from \"express\""]),
  ("spring", ["@RestController", "@SpringBootApplication", "import org.springframework"]),
  ("csharp-web", ["using Microsoft.AspNetCore", "using System.Web.Mvc", ": ControllerBase",
    ": Controller"])]

def frameworkExtensions : List (String × String) :=
  [(".jsx", "react"), (".tsx", "react"), (".cs", "csharp-web")]

/-- The frameworks of a text in the order of `frameworkMarks`, then that of its path. -/
def frameworks (code : List Char) (path : Option String) : List String :=
  let found := (frameworkMarks.filter fun e => e.2.any fun m => Text.occurs m.toList code).map (·.1)
  match (givenPath? path).bind fun p => frameworkExtensions.lookup p.extension with
  | some f => if found.contains f then found else found ++ [f]
  | none => found

/-- Texts in small letters that tell of access to a database. -/
def databaseMarks : List String := ["select", "insert", "update", "delete", "query", "execute",
  "findone", "findmany", "user.objects", "model.find", "repository"]

/-- Whether a text tells of access to a database. -/
def usesDatabase (code : List Char) : Bool :=
  let small := Text.lower code
  databaseMarks.any fun m => Text.occurs m.toList small

end RuleReview.Language
