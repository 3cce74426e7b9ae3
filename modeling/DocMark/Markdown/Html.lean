-- SUMMARY: Raw HTML in Markdown: tags, comments and declarations in a line, and the starts of HTML blocks.
import DocMark.Markdown.Chars

/-!
# Raw HTML

Functions that end in `?` take the text from a certain place and give what follows the construct
there, if it is one. Block starts have a kind from `1` to `7`, which decides how the block ends.
-/
namespace DocMark.Markdown.Html

/-! ## Tags -/

def isTagNameChar (c : Char) : Bool := isAlphanumeric c || c == '-'

def afterTagName? : List Char → Option (List Char)
  | [] => none
  | c :: cs => if isLetter c then some (cs.dropWhile isTagNameChar) else none

def isAttributeStart (c : Char) : Bool := isLetter c || c == '_' || c == ':'

def isAttributeChar (c : Char) : Bool :=
  isAlphanumeric c || c == ':' || c == '.' || c == '_' || c == '-'

/-- The characters that end an attribute value without quotes. -/
def endsBareValue (c : Char) : Bool :=
  isSeparator c || c == '"' || c == '\'' || c == '=' || c == '<' || c == '>' || c == '\x60'

/-- What follows the closing quote. -/
def afterQuote? (quote : Char) : List Char → Option (List Char)
  | [] => none
  | c :: cs => if c = quote then some cs else afterQuote? quote cs

def afterValue? : List Char → Option (List Char)
  | [] => none
  | '"' :: cs => afterQuote? '"' cs
  | '\'' :: cs => afterQuote? '\'' cs
  | c :: cs => if endsBareValue c then none else some (cs.dropWhile fun c => !endsBareValue c)

/-- After an attribute's name: its value, if an equals sign comes next. -/
def afterValueSpec? (cs : List Char) : Option (List Char) :=
  match cs.dropWhile isSeparator with
  | '=' :: rest => afterValue? (rest.dropWhile isSeparator)
  | _ => some cs

/-- The end of an opening tag, with or without a slash. -/
def afterTagEnd? (cs : List Char) : Option (List Char) :=
  match cs.dropWhile isSeparator with
  | '>' :: rest => some rest
  | '/' :: '>' :: rest => some rest
  | _ => none

/-- The attributes and the end of an opening tag; `fuel` bounds their number. -/
def afterAttributes? : Nat → List Char → Option (List Char)
  | 0, cs => afterTagEnd? cs
  | fuel + 1, cs =>
    match cs with
    | [] => none
    | c :: _ =>
      if !isSeparator c then afterTagEnd? cs
      else match cs.dropWhile isSeparator with
        | [] => none
        | d :: ds =>
          if isAttributeStart d then
            (afterValueSpec? (ds.dropWhile isAttributeChar)).bind (afterAttributes? fuel)
          else afterTagEnd? cs

/-- After the `<` of an opening tag. -/
def afterOpenTag? (cs : List Char) : Option (List Char) :=
  (afterTagName? cs).bind fun rest => afterAttributes? rest.length rest

/-- After the `<` of a closing tag. -/
def afterCloseTag? : List Char → Option (List Char)
  | '/' :: cs =>
    match afterTagName? cs with
    | some rest =>
      match rest.dropWhile isSeparator with
      | '>' :: rest => some rest
      | _ => none
    | none => none
  | _ => none

def afterTag? (cs : List Char) : Option (List Char) :=
  (afterOpenTag? cs).orElse fun _ => afterCloseTag? cs

/-! ## Other constructs -/

/-- Inside a comment, up to its end. Hyphens are taken in pairs with the character after them. -/
def afterComment? : List Char → Option (List Char)
  | '-' :: '-' :: '>' :: rest => some rest
  | '-' :: '-' :: _ :: rest => afterComment? rest
  | '-' :: '-' :: [] => none
  | '-' :: _ :: rest => afterComment? rest
  | _ :: rest => afterComment? rest
  | [] => none

/-- Inside a processing instruction, up to its end. -/
def afterInstruction? : List Char → Option (List Char)
  | '?' :: '>' :: rest => some rest
  | '?' :: _ :: rest => afterInstruction? rest
  | _ :: rest => afterInstruction? rest
  | [] => none

/-- Inside a declaration, up to its end. -/
def afterDeclaration? : List Char → Option (List Char)
  | [] => none
  | c :: rest => if c = '>' then some rest else afterDeclaration? rest

/-- Inside a character data section, up to its end. Brackets are taken in pairs with the
    character after them. -/
def afterCharacterData? : List Char → Option (List Char)
  | ']' :: ']' :: '>' :: rest => some rest
  | ']' :: ']' :: _ :: rest => afterCharacterData? rest
  | ']' :: ']' :: [] => none
  | ']' :: _ :: rest => afterCharacterData? rest
  | _ :: rest => afterCharacterData? rest
  | [] => none

/-- After the `<` of any construct within a line. -/
def afterInline? (cs : List Char) : Option (List Char) :=
  match cs with
  | '!' :: '-' :: '-' :: '>' :: rest => some rest
  | '!' :: '-' :: '-' :: '-' :: '>' :: rest => some rest
  | '!' :: '-' :: '-' :: rest => afterComment? rest
  | '!' :: '[' :: rest => (after? "CDATA[".toList rest).bind afterCharacterData?
  | '!' :: c :: rest => if isLetter c then afterDeclaration? rest else none
  | '?' :: rest => afterInstruction? rest
  | _ => afterTag? cs

/-! ## Blocks -/

/-- Elements whose content is not Markdown. -/
def rawTextTags : List String := ["script", "pre", "textarea", "style"]

/-- Elements that make a block of their own. -/
def blockTags : List String :=
  ["address", "article", "aside", "basefont", "base", "blockquote", "body", "caption", "center",
   "colgroup", "col", "dd", "details", "dialog", "dir", "div", "dl", "dt", "fieldset",
   "figcaption", "figure", "footer", "form", "frameset", "frame", "h1", "h2", "h3", "h4", "h5",
   "h6", "header", "head", "hr", "html", "iframe", "legend", "link", "li", "main", "menuitem",
   "menu", "nav", "noframes", "ol", "optgroup", "option", "param", "p", "search", "section",
   "summary", "table", "tbody", "td", "tfoot", "thead", "th", "title", "track", "tr", "ul"]

def startsRawText (cs : List Char) : Bool :=
  rawTextTags.any fun tag =>
    match afterCaseless? tag.toList cs with
    | some [] => true
    | some (c :: _) => isSeparator c || c == '>'
    | none => false

def startsBlockTag (cs : List Char) : Bool :=
  let cs := match cs with
    | '/' :: rest => rest
    | _ => cs
  blockTags.any fun tag =>
    match afterCaseless? tag.toList cs with
    | some [] => true
    | some ('/' :: '>' :: _) => true
    | some (c :: _) => isSeparator c || c == '>'
    | none => false

/-- The blanks that may follow a tag that stands alone on its line. -/
def isTrailingBlank (c : Char) : Bool := c == ' ' || c == '\t' || c == '\x0c'

/-- The kind of the HTML block that a line's content begins; a kind `7` block cannot interrupt a
    paragraph. -/
def blockStart? (inParagraph : Bool) : List Char → Option Nat
  | '<' :: cs =>
    if startsRawText cs then some 1
    else if startsWith "!--".toList cs then some 2
    else if startsWith ['?'] cs then some 3
    else if (cs.head? == some '!') && (cs[1]?.any isLetter) then some 4
    else if (afterCaseless? "![CDATA[".toList cs).isSome then some 5
    else if startsBlockTag cs then some 6
    else if inParagraph then none
    else match afterTag? cs with
      | some rest => if rest.all isTrailingBlank then some 7 else none
      | none => none
  | _ => none

/-- Whether a line's content ends a block of the given kind. Kinds `6` and `7` end at a blank
    line instead. -/
def endsBlock (kind : Nat) (cs : List Char) : Bool :=
  match kind with
  | 1 => rawTextTags.any fun tag => containsPart ("</" ++ tag ++ ">").toList (cs.map toLower)
  | 2 => containsPart "-->".toList cs
  | 3 => containsPart "?>".toList cs
  | 4 => containsPart ['>'] cs
  | 5 => containsPart "]]>".toList cs
  | _ => false

end DocMark.Markdown.Html
