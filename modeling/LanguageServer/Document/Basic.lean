import LanguageServer.Text.LineIndex
import LanguageServer.Uri

/-!
# Documents

A document is the content, version and language of one open file. Its line index is built by the
first query that needs it and is remembered until the text is replaced. Queries are answered from
the remembered index; that it is the index of the current text is not part of the type.
-/

namespace LanguageServer

open Text

structure DocumentItem where
  uri : Uri
  languageId : String
  version : Int
  text : String
deriving DecidableEq, Repr, Inhabited

/-- An open document and the line index it remembers. -/
structure TextDocument extends DocumentItem where
  lineIndex? : Option LineIndex
deriving DecidableEq, Repr, Inhabited

namespace TextDocument

/-- A new document remembers no line index. -/
def ofItem (item : DocumentItem) : TextDocument := { item with lineIndex? := none }

def lineIndex (document : TextDocument) : LineIndex :=
  document.lineIndex?.getD (.ofText document.text)

def remember (document : TextDocument) : TextDocument :=
  { document with lineIndex? := some document.lineIndex }

/-- Replaces the whole content and forgets the line index. -/
def update (document : TextDocument) (text : String) (version : Int) : TextDocument :=
  { document with text, version, lineIndex? := none }

def positionAt (document : TextDocument) (offset : Nat) : Position :=
  document.lineIndex.positionAt document.text offset

def offsetAt (document : TextDocument) (position : Position) : Nat :=
  document.lineIndex.offsetAt document.text position

def lineCount (document : TextDocument) : Nat := document.lineIndex.lineCount

/-- The text between two positions, the character at the second one included. A range whose end
lies before its start holds no text. -/
def textIn (document : TextDocument) (range : Range) : String :=
  let chars := document.text.toList
  let start := document.offsetAt range.start
  let stop := document.offsetAt range.stop
  if stop < start then ""
  else
    let last := ((dropWidth Char.utf8Size stop chars).head?.map Char.utf8Size).getD 0
    .ofList (slice chars start (stop + last))

inductive Query where
  | wholeText
  | textIn (range : Range)
  | positionAt (offset : Nat)
  | offsetAt (position : Position)
  | lineCount
deriving DecidableEq, Repr

inductive Answer where
  | text (text : String)
  | position (position : Position)
  | count (count : Nat)
deriving DecidableEq, Repr

def answer (document : TextDocument) : Query → Answer
  | .wholeText => .text document.text
  | .textIn range => .text (document.textIn range)
  | .positionAt offset => .position (document.positionAt offset)
  | .offsetAt position => .count (document.offsetAt position)
  | .lineCount => .count document.lineCount

/-- The document after a query; only the whole text is given without a line index. -/
def afterQuery (document : TextDocument) : Query → TextDocument
  | .wholeText => document
  | _ => document.remember

end TextDocument

end LanguageServer
