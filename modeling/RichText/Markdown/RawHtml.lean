/-!
# HTML in Markdown

A document holds no HTML of the text, so it matters only where a piece of it begins and ends.

**In a line** (`tag?`): a tag, a comment, an instruction, a declaration or a character-data section.

**As a block** (`HtmlBlock`): what opens on a line of its own. Five kinds go on to the line with
their closing mark, and two up to the next blank line.
-/

namespace RichText.Markdown

/-! ## Searching -/

/-- The characters after `mark`, if `s` starts with it. -/
def afterMark? (mark s : List Char) : Option (List Char) :=
  if mark.isPrefixOf s then some (s.drop mark.length) else none

/-- The characters after the first occurrence of `mark`. -/
def afterFirst? (mark : List Char) : List Char → Option (List Char)
  | [] => afterMark? mark []
  | c :: rest =>
    match afterMark? mark (c :: rest) with
    | some after => some after
    | none => afterFirst? mark rest

/-! ## Tags -/

/-- Whether `c` may stand between the parts of a tag. -/
def isTagSpace (c : Char) : Bool := c == ' ' || c == '\t' || c == '\n'

/-- Whether `c` may follow the first letter of the name of an element. -/
def isElementChar (c : Char) : Bool := c.isAlphanum || c == '-'

/-- Whether the name of an attribute may start with `c`. -/
def isAttributeStart (c : Char) : Bool := c.isAlpha || c == '_' || c == ':'

/-- Whether `c` may follow in the name of an attribute. -/
def isAttributeChar (c : Char) : Bool := c.isAlphanum || ['_', '.', ':', '-'].contains c

/-- Whether a value without quotes may hold `c`. -/
def isBareValueChar (c : Char) : Bool :=
  !(isTagSpace c || ['"', '\'', '=', '<', '>', '\x60'].contains c)

/-- The characters after the name of an element. -/
def afterElement? : List Char → Option (List Char)
  | c :: rest => if c.isAlpha then some (rest.dropWhile isElementChar) else none
  | [] => none

/-- The characters after the value of an attribute, if there is a value. -/
def afterValue? (s : List Char) : Option (List Char) :=
  match s.dropWhile isTagSpace with
  | '=' :: rest =>
    match rest.dropWhile isTagSpace with
    | '"' :: rest => afterFirst? ['"'] rest
    | '\'' :: rest => afterFirst? ['\''] rest
    | c :: rest => if isBareValueChar c then some (rest.dropWhile isBareValueChar) else none
    | [] => none
  | _ => some s

/-- The characters after the attributes and the end of a tag, at most `fuel` attributes of them. -/
def afterAttributes? : Nat → List Char → Option (List Char)
  | 0, _ => none
  | fuel + 1, s =>
    match s.dropWhile isTagSpace with
    | '>' :: rest => some rest
    | '/' :: '>' :: rest => some rest
    | c :: rest =>
      if s.head?.any isTagSpace && isAttributeStart c then
        (afterValue? (rest.dropWhile isAttributeChar)).bind (afterAttributes? fuel)
      else none
    | [] => none

/-- The characters after a start tag, given those after its opening bracket. -/
def afterStartTag? (s : List Char) : Option (List Char) :=
  (afterElement? s).bind fun rest => afterAttributes? (rest.length + 1) rest

/-- The characters after an end tag, given those after its slash. -/
def afterEndTag? (s : List Char) : Option (List Char) :=
  (afterElement? s).bind fun rest => afterMark? ['>'] (rest.dropWhile isTagSpace)

/-- The characters after a piece of HTML, given those after its opening bracket. -/
def tag? : List Char → Option (List Char)
  | '/' :: rest => afterEndTag? rest
  | '?' :: rest => afterFirst? ['?', '>'] rest
  | '!' :: '-' :: '-' :: '>' :: rest => some rest
  | '!' :: '-' :: '-' :: '-' :: '>' :: rest => some rest
  | '!' :: '-' :: '-' :: rest => afterFirst? ['-', '-', '>'] rest
  | '!' :: rest =>
    match afterMark? "[CDATA[".toList rest with
    | some rest => afterFirst? [']', ']', '>'] rest
    | none => if rest.head?.any Char.isAlpha then afterFirst? ['>'] rest else none
  | s => afterStartTag? s

/-! ## Blocks -/

/-- The kinds of blocks of HTML. -/
inductive HtmlBlock where
  /-- An element whose content is no markup, such as a script. -/
  | rawText
  | comment
  | instruction
  | declaration
  | characterData
  /-- An element that stands as a block by its name. -/
  | element
  /-- A line that holds a single tag and nothing else. -/
  | tag
deriving DecidableEq

namespace HtmlBlock

/-- Elements whose content is no markup. -/
def rawTextElements : List String := ["script", "pre", "textarea", "style"]

/-- Elements that stand as blocks by their names. -/
def elements : List String :=
  ["address", "article", "aside", "base", "basefont", "blockquote", "body", "caption", "center",
    "col", "colgroup", "dd", "details", "dialog", "dir", "div", "dl", "dt", "fieldset",
    "figcaption", "figure", "footer", "form", "frame", "frameset", "h1", "h2", "h3", "h4", "h5",
    "h6", "head", "header", "hr", "html", "iframe", "legend", "li", "link", "main", "menu",
    "menuitem", "nav", "noframes", "ol", "optgroup", "option", "p", "param", "search", "section",
    "summary", "table", "tbody", "td", "tfoot", "th", "thead", "title", "tr", "track", "ul"]

/-- The name in lower case at the start of the characters. -/
def elementName (s : List Char) : String :=
  String.ofList ((s.takeWhile isElementChar).map Char.toLower)

/-- Whether the characters after the name of an element end that name. -/
def endsName (slash : Bool) (s : List Char) : Bool :=
  match s.dropWhile isElementChar with
  | [] => true
  | '/' :: '>' :: _ => slash
  | c :: _ => c == ' ' || c == '\t' || c == '>'

/-- Whether nothing but a single tag stands on the line. -/
def isLoneTag (s : List Char) : Bool :=
  let rest :=
    match s with
    | '/' :: rest => afterEndTag? rest
    | s => afterStartTag? s
  rest.any fun rest => rest.all isTagSpace

/-- The kind of a block that a line opens, given the characters after its opening bracket. A lone
tag opens none where it would interrupt a paragraph. -/
def ofLine? (inParagraph : Bool) (s : List Char) : Option HtmlBlock :=
  let name := match s with
    | '/' :: rest => rest
    | s => s
  if rawTextElements.contains (elementName s) && endsName false s then some rawText
  else if "!--".toList.isPrefixOf s then some comment
  else if "?".toList.isPrefixOf s then some instruction
  else if "![CDATA[".toList.isPrefixOf s then some characterData
  else if "!".toList.isPrefixOf s && (s.drop 1).head?.any Char.isAlpha then some declaration
  else if elements.contains (elementName name) && endsName true name then some element
  else if !inParagraph && isLoneTag s then some tag
  else none

/-- Whether the block goes on to a line with its closing mark, and not to a blank line. -/
def hasClosingMark : HtmlBlock → Bool
  | element | tag => false
  | _ => true

/-- Whether the line holds a closing mark of the block. -/
def closedBy (b : HtmlBlock) (line : List Char) : Bool :=
  match b with
  | rawText =>
    rawTextElements.any fun name =>
      (afterFirst? ("</" ++ name ++ ">").toList (line.map Char.toLower)).isSome
  | comment => (afterFirst? ['-', '-', '>'] line).isSome
  | instruction => (afterFirst? ['?', '>'] line).isSome
  | declaration => (afterFirst? ['>'] line).isSome
  | characterData => (afterFirst? [']', ']', '>'] line).isSome
  | element | tag => false

end HtmlBlock

end RichText.Markdown
