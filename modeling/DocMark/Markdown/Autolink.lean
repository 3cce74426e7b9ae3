-- SUMMARY: Addresses that are links by themselves: in angle brackets, on the web, and of e-mail.
import DocMark.Markdown.Ast
import DocMark.Markdown.Entity
import DocMark.Text.Blank
import DocMark.Text.Punctuation

/-!
# Autolinks

Three kinds of address need no link markup: any address with a scheme or an e-mail address in
angle brackets; an address that begins with `www.`, `http://`, `https://` or `ftp://`; and an
e-mail address in finished text. The functions give the link and the text after it.
-/
namespace DocMark.Markdown

/-- A link that shows `shown` and leads to `url`. -/
def Ast.linkTo (url shown : List Char) : Ast :=
  .node (.link (String.ofList url) "") [.text shown]

/-! ## In angle brackets -/

def isSchemeChar (c : Char) : Bool := isAlphanumeric c || c == '.' || c == '+' || c == '-'

/-- The characters of an address in angle brackets. -/
def isUriChar (c : Char) : Bool := 0x20 < c.toNat && c != '<' && c != '>'

/-- An address with a scheme of two to thirty-two characters. -/
def angleUri? (cs : List Char) : Option (List Char × List Char) :=
  match cs with
  | [] => none
  | c :: _ =>
    let scheme := cs.takeWhile isSchemeChar
    if isLetter c && 2 ≤ scheme.length && scheme.length ≤ 32 then
      match cs.dropWhile isSchemeChar with
      | ':' :: rest =>
        match rest.dropWhile isUriChar with
        | '>' :: after => some (scheme ++ ':' :: rest.takeWhile isUriChar, after)
        | _ => none
      | _ => none
    else none

/-- The characters before the at sign of an address in angle brackets. -/
def isMailboxChar (c : Char) : Bool :=
  isAlphanumeric c || ".!#$%&'*+/=?^_\x60\x7b|\x7d~-".toList.contains c

def isHostChar (c : Char) : Bool := isAlphanumeric c || c == '-'

/-- One to sixty-three letters, digits and hyphens, without a hyphen at either end. -/
def isHostLabel (label : List Char) : Bool :=
  label.length ≤ 63 && label.all isHostChar && label.head?.any isAlphanumeric
    && label.getLast?.any isAlphanumeric

/-- The host name of an address up to its closing angle bracket; `fuel` bounds its labels. -/
def angleHost? : Nat → List Char → Option (List Char × List Char)
  | 0, _ => none
  | fuel + 1, cs =>
    let label := cs.takeWhile isHostChar
    if isHostLabel label then
      match cs.dropWhile isHostChar with
      | '>' :: rest => some (label, rest)
      | '.' :: rest => (angleHost? fuel rest).map fun (host, rest) => (label ++ '.' :: host, rest)
      | _ => none
    else none

def angleEmail? (cs : List Char) : Option (List Char × List Char) :=
  let mailbox := cs.takeWhile isMailboxChar
  match cs.dropWhile isMailboxChar with
  | '@' :: rest =>
    if mailbox.isEmpty then none
    else (angleHost? rest.length rest).map fun (host, rest) => (mailbox ++ '@' :: host, rest)
  | _ => none

/-- The link of an address after its opening angle bracket. -/
def angleLink? (cs : List Char) : Option (Ast × List Char) :=
  match angleUri? cs with
  | some (uri, rest) => some (.linkTo (resolveEntities uri) (resolveEntities uri), rest)
  | none =>
    (angleEmail? cs).map fun (address, rest) =>
      (.linkTo ("mailto:".toList ++ resolveEntities address) (resolveEntities address), rest)

/-! ## Web addresses in running text -/

def isDomainChar (c : Char) : Bool := !Text.isWhiteSpace c && !Text.isPunctuation c || c == '-'

/-- How many dots make underscores in a domain acceptable. -/
def manyDots : Nat := 10

/-- Whether a domain name comes first, after so many dots and with so many underscores in its last
    segment and in the one before that. The last two segments have no underscore, a domain that is
    not `short` has a dot, and backslashes within it do not count. -/
def startsDomain (short : Bool) (dots before last : Nat) : List Char → Bool
  | [] => (before + last == 0 || manyDots < dots) && (short || 0 < dots)
  | c :: cs =>
    if c = '_' then startsDomain short dots before (last + 1) cs
    else if c = '.' then startsDomain short (dots + 1) last 0 cs
    else if isDomainChar c || (c == '\\' && !cs.isEmpty) then startsDomain short dots before last cs
    else before + last == 0 && (short || 0 < dots)

/-- The marks that do not end an address. -/
def isTrailingMark (c : Char) : Bool := "?!.,:*_~'\"".toList.contains c

/-- An address in reverse without what belongs to the sentence around it: marks, a closing
    parenthesis that was not opened, and a character reference; `fuel` bounds its length. -/
def trimAddressFrom : Nat → List Char → List Char
  | 0, cs => cs
  | _ + 1, [] => []
  | fuel + 1, c :: cs =>
    if isTrailingMark c then trimAddressFrom fuel cs
    else if c = ';' then
      match cs.dropWhile isLetter with
      | '&' :: rest =>
        if cs.head?.any isLetter then trimAddressFrom fuel rest else trimAddressFrom fuel cs
      | _ => trimAddressFrom fuel cs
    else if c = ')' then
      if (c :: cs).count ')' ≤ cs.count '(' then c :: cs else trimAddressFrom fuel cs
    else c :: cs

/-- The part of a text without spaces that is an address. -/
def trimAddress (cs : List Char) : List Char :=
  let cs := cs.takeWhile (· != '<')
  (trimAddressFrom cs.length cs.reverse).reverse

/-- The address at the front of a text, and what follows it. -/
def address (cs : List Char) : List Char × List Char :=
  let found := trimAddress (cs.takeWhile fun c => !isSpace c)
  (found, cs.drop found.length)

def webSchemes : List String := ["http", "https", "ftp"]

/-- A link whose scheme stands at the end of `before`, which is in reverse, and whose colon comes
    first. Gives the length of the scheme too. -/
def webLink? (before cs : List Char) : Option (Ast × Nat × List Char) :=
  let scheme := (before.takeWhile isLetter).reverse
  match cs with
  | ':' :: '/' :: '/' :: domain =>
    if !domain.isEmpty && webSchemes.contains (String.ofList scheme)
        && startsDomain true 0 0 0 domain then
      let (rest, after) := address cs
      some (.linkTo (scheme ++ rest) (scheme ++ rest), scheme.length, after)
    else none
  | _ => none

/-- What may stand before `www.`. -/
def precedesAddress (c : Char) : Bool := isSpace c || "*_~([".toList.contains c

/-- A link that begins with `www.`, after a text in reverse. -/
def wwwLink? (before cs : List Char) : Option (Ast × List Char) :=
  if before.head?.all precedesAddress && startsWith "www.".toList cs && startsDomain false 0 0 0 cs
  then
    let (found, after) := address cs
    some (.linkTo ("http://".toList ++ found) found, after)
  else none

/-! ## E-mail addresses in finished text -/

/-- How the address before an at sign begins. -/
inductive MailScheme where
  | implied
  | mail
  | chat
deriving DecidableEq, Repr

/-- The part of an address before its at sign, as the end of a text in reverse: its length and its
    scheme. -/
def mailboxBefore (scheme : MailScheme) : List Char → Nat × MailScheme
  | [] => (0, scheme)
  | c :: cs =>
    if isAlphanumeric c || c == '.' || c == '+' || c == '-' || c == '_' then
      let (n, scheme) := mailboxBefore scheme cs
      (n + 1, scheme)
    else if c = ':' then
      let word := (cs.takeWhile isLetter).reverse
      if word = "mailto".toList then
        let (n, scheme) := mailboxBefore (if scheme = .chat then .chat else .mail) cs
        (n + 1, scheme)
      else if word = "xmpp".toList then
        let (n, scheme) := mailboxBefore .chat cs
        (n + 1, scheme)
      else (0, scheme)
    else (0, scheme)

/-- The host after an at sign with the number of its dots; nothing if another at sign ends it. -/
def hostAfter? (scheme : MailScheme) : List Char → Option (List Char × Nat)
  | [] => some ([], 0)
  | c :: cs =>
    if isAlphanumeric c || c == '-' || c == '_' || (c == '/' && scheme == .chat) then
      (hostAfter? scheme cs).map fun (host, dots) => (c :: host, dots)
    else if c = '@' then none
    else if c = '.' && cs.head?.any isAlphanumeric then
      (hostAfter? scheme cs).map fun (host, dots) => (c :: host, dots + 1)
    else some ([], 0)

/-- The link of the address around an at sign: its length before the sign, and the text after it. -/
def emailAt? (before after : List Char) : Option (Ast × Nat × List Char) := do
  let (length, scheme) := mailboxBefore .implied before
  let (host, dots) ← hostAfter? scheme after
  if length = 0 ∨ dots = 0 ∨ !host.getLast?.any isLetter then none
  else
    let shown := (before.take length).reverse ++ '@' :: host
    let url := if scheme = .implied then "mailto:".toList ++ shown else shown
    some (.linkTo url shown, length, after.drop host.length)

/-- The first address of a text outside square brackets, where `before` holds the text so far in
    reverse: the text before it, its link and the text after it. -/
def findEmail? (before : List Char) (depth : Int) :
    List Char → Option (List Char × Ast × List Char)
  | [] => none
  | c :: cs =>
    let depth := if c = '[' then depth + 1 else if c = ']' then depth - 1 else depth
    let found := if depth ≤ 0 ∧ c = '@' then emailAt? before cs else none
    match found with
    | some (link, length, rest) => some ((before.drop length).reverse, link, rest)
    | none => findEmail? (c :: before) depth cs

/-- A text cut at its addresses; `fuel` bounds their number. The text before an address may be
    empty, and the one after the last address is left out if it is. -/
def splitEmails : Nat → List Char → List Ast
  | 0, cs => [.text cs]
  | fuel + 1, cs =>
    match findEmail? [] 0 cs with
    | some (before, link, rest) =>
      .text before :: link :: (if rest.isEmpty then [] else splitEmails fuel rest)
    | none => [.text cs]

end DocMark.Markdown
