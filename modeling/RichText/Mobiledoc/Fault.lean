import RichText.Json.Printer
import RichText.Text.Quoted

/-!
# Why JSON is no Mobiledoc

A Mobiledoc is an object with a version, a table of markups, a table of cards and a list of
sections. A fault names the place where the object departs from that and what stands there.
-/

namespace RichText

/-- A part of a Mobiledoc that a message can point to. -/
inductive MobiledocPlace where
  | markups
  | cards
  | sections
  | markup (index : Nat)
  | card (index : Nat)
  | sectionEntry (index : Nat)
deriving DecidableEq

/-- What is wrong with a Mobiledoc. -/
inductive MobiledocFault where
  | missingVersion
  | unsupportedVersion (version : String)
  | notArray (place : MobiledocPlace) (found : Json)
  | notText (place : MobiledocPlace) (found : Json)
  | notIndex (place : MobiledocPlace) (found : Json)
  | emptyEntry (place : MobiledocPlace)
  | unknownMarkupTag (place : MobiledocPlace) (tag : String)
  | unpairedAttributes (place : MobiledocPlace)
  | attributeName (place : MobiledocPlace) (name : String)
  | markupOutOfRange (index : Nat)
  | cardOutOfRange (index : Nat)
  | markerLength (place : MobiledocPlace)
  | atom (place : MobiledocPlace)
  | markerType (place : MobiledocPlace) (found : Json)
  | noSectionType (place : MobiledocPlace)
  | sectionType (place : MobiledocPlace) (found : Nat)
  | missingEntry (place : MobiledocPlace) (index : Nat)
  | sectionTag (place : MobiledocPlace) (tag : String)
deriving DecidableEq

/-- How a message names a place. -/
def MobiledocPlace.describe : MobiledocPlace → String
  | markups => "markups"
  | cards => "cards"
  | sections => "sections"
  | markup i => "markups[" ++ toString i ++ "]"
  | card i => "cards[" ++ toString i ++ "]"
  | sectionEntry i => "sections[" ++ toString i ++ "]"

/-- The wording of a fault. -/
def MobiledocFault.message : MobiledocFault → String
  | missingVersion => "missing version"
  | unsupportedVersion v => "unsupported version " ++ v
  | notArray p v => p.describe ++ " must be an array, got " ++ v.compact
  | notText p v => p.describe ++ " must be a string, got " ++ v.compact
  | notIndex p v => p.describe ++ " must be a non-negative integer, got " ++ v.compact
  | emptyEntry p => p.describe ++ " is empty"
  | unknownMarkupTag p tag => p.describe ++ ": unknown markup tag " ++ Quoted.encode tag
  | unpairedAttributes p => p.describe ++ " attributes must come in pairs"
  | attributeName p name => p.describe ++ ": invalid attribute name " ++ Quoted.encode name
  | markupOutOfRange i => "markup index " ++ toString i ++ " out of range"
  | cardOutOfRange i => "card index " ++ toString i ++ " out of range"
  | markerLength p => p.describe ++ " marker must have 4 entries"
  | atom p => p.describe ++ ": atoms are not supported"
  | markerType p v => p.describe ++ ": unknown marker type " ++ v.compact
  | noSectionType p => p.describe ++ " has no section type"
  | sectionType p n => p.describe ++ ": unknown section type " ++ toString n
  | missingEntry p i => p.describe ++ " is missing entry " ++ toString i
  | sectionTag p tag => p.describe ++ ": unknown section tag " ++ Quoted.encode tag

end RichText
