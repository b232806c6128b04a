import RichText.Markdown.Tree
import RichText.Text.Punctuation

/-!
# Emphasis

Runs of `*`, `_` and `~` open and close styles. Which of them belong together is known only when the
text around them has been read, so reading leaves *pieces*: inlines that are complete, runs whose
part is open, and opening brackets that may start a link.

**Flanking.** A run opens if text follows it directly and closes if text stands directly before it;
beside punctuation, it belongs to the side of the text.

**Matching** (`settle`). Each run that closes takes the nearest run before it that opens, has the
same character and fits; what stands between is its content. Runs that find no partner are text.
-/

namespace RichText.Markdown

/-! ## Delimiter runs -/

/-- A run of one of the characters `*`, `_` and `~`. -/
structure DelimiterRun where
  mark : Char
  /-- How many characters of the run have no partner yet. -/
  count : Nat
  /-- The length of the whole run. -/
  length : Nat
  opens : Bool
  closes : Bool
deriving DecidableEq

namespace DelimiterRun

/-- Whether text follows a run directly that stands between `before` and `after`. -/
def leftFlanking (before after : Char) : Bool :=
  !whiteSpace.mem after &&
    (!punctuation.mem after || whiteSpace.mem before || punctuation.mem before)

/-- Whether text stands directly before a run that stands between `before` and `after`. -/
def rightFlanking (before after : Char) : Bool := leftFlanking after before

/-- Whether a run opens a style. Underscores do not open one within a word, nor does a single tilde;
two tildes open one wherever no white space follows, and more than two never do. -/
def canOpen (mark : Char) (length : Nat) (before after : Char) : Bool :=
  match mark with
  | '_' =>
    leftFlanking before after && (!rightFlanking before after || punctuation.mem before)
  | '~' =>
    length ≤ 2 && !whiteSpace.mem after &&
      (length == 2 || whiteSpace.mem before || punctuation.mem before)
  | _ => leftFlanking before after

/-- Whether a run closes a style, by the same rules seen from behind; two tildes after punctuation
close one only where no text follows. -/
def canClose (mark : Char) (length : Nat) (before after : Char) : Bool :=
  match mark with
  | '_' =>
    rightFlanking before after && (!leftFlanking before after || punctuation.mem after)
  | '~' =>
    length ≤ 2 && !whiteSpace.mem before &&
      (whiteSpace.mem after || punctuation.mem after || length == 2 && !punctuation.mem before)
  | _ => rightFlanking before after

/-- The run of `length` marks between two characters. -/
def ofNeighbours (mark : Char) (length : Nat) (before after : Char) : DelimiterRun where
  mark
  count := length
  length
  opens := canOpen mark length before after
  closes := canClose mark length before after

/-- What is left of a run, as text. -/
def text (d : DelimiterRun) : Inline := .text (String.ofList (List.replicate d.count d.mark))

/-- Whether `opener` and `closer` may belong together. Tildes pair up in runs of one length. Where a
run could both open and close, the two lengths must not add up to a multiple of three, unless both
are multiples of three. -/
def fits (opener closer : DelimiterRun) : Bool :=
  opener.mark == closer.mark && opener.opens && closer.closes &&
    (opener.mark != '~' || opener.length == closer.length) &&
    (!(opener.closes || closer.opens) || (opener.length + closer.length) % 3 != 0 ||
      closer.length % 3 == 0)

/-- How many marks of each run are used up at once: two where both have two. -/
def used (opener closer : DelimiterRun) : Nat :=
  if 2 ≤ opener.count ∧ 2 ≤ closer.count then 2 else 1

/-- The style that so many marks stand for. -/
def style (mark : Char) (used : Nat) : Style :=
  if mark = '~' then .strikethrough else if used = 2 then .strong else .emphasis

/-- The run without some of its marks. -/
def without (d : DelimiterRun) (used : Nat) : DelimiterRun := { d with count := d.count - used }

end DelimiterRun

/-! ## Pieces -/

/-- A part of a text that is being read. -/
inductive Piece where
  | inline (i : Inline)
  | delimiters (d : DelimiterRun)
  /-- An opening bracket with the characters after it. A bracket is dead when it can open no link,
  since a link stands inside it. -/
  | bracket (image dead : Bool) (after : List Char)

namespace Piece

/-- What a piece is when it finds no partner. -/
def settled : Piece → Inline
  | .inline i => i
  | .delimiters d => d.text
  | .bracket image _ _ => .text (if image then "![" else "[")

/-- The run as a piece, if any of its marks is left. -/
def ofRun (d : DelimiterRun) : List Piece := if d.count = 0 then [] else [.delimiters d]

/-- The nearest run that fits `closer` among `pieces`, last first: the content after it, the run,
and the pieces before it. `content` is what stands after `pieces`. -/
def opener? (closer : DelimiterRun) (content : List Inline) :
    List Piece → Option (List Inline × DelimiterRun × List Piece)
  | [] => none
  | .delimiters d :: before =>
    if d.fits closer then some (content, d, before) else opener? closer (d.text :: content) before
  | p :: before => opener? closer (p.settled :: content) before

/-- Adds a run behind `pieces`, which are given last first. It closes what it can, using up at least
one mark each time, so `fuel` beyond its count is never spent. -/
def close : Nat → DelimiterRun → List Piece → List Piece
  | fuel + 1, d, pieces =>
    if d.closes && 0 < d.count then
      match opener? d [] pieces with
      | some (content, opener, before) =>
        let used := opener.used d
        close fuel (d.without used)
          (.inline (.styled (DelimiterRun.style d.mark used) content) ::
            ofRun (opener.without used) ++ before)
      | none => ofRun d ++ pieces
    else ofRun d ++ pieces
  | 0, d, pieces => ofRun d ++ pieces

/-- Matches the runs of `pieces`, which are in order; `done` is what stands before them, last
first. -/
def matchRuns (done : List Piece) : List Piece → List Piece
  | [] => done
  | .delimiters d :: rest => matchRuns (close (d.count + 1) d done) rest
  | p :: rest => matchRuns (p :: done) rest

/-- The inlines that pieces stand for; the pieces are given last first. -/
def settle (pieces : List Piece) : List Inline :=
  (matchRuns [] pieces.reverse).reverse.map settled

end Piece

end RichText.Markdown
