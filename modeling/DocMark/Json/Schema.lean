-- SUMMARY: Records described by tables of their members, and one reader and one writer for all of them.
import DocMark.Json.Parse

/-!
# Schemas

A `Schema` says, for each part of a data model, which members it has in JSON: their names and
shapes, which may be missing and what stands for them then, and which are left out when
written. `Datum` is the content of such a part without names. `Schema.write` turns it into a
JSON value, `Schema.read` reads it from a text in one pass from left to right, and
`Schema.ofValue` takes it from a value already read.

A record is an object or, position by position, an array. Unknown members are passed over.
A choice is an object with one member that names the alternative.
-/
namespace DocMark.Json

/-- The content of a part of a data model. -/
inductive Datum where
  | text (s : String)
  | flag (b : Bool)
  | index (n : Nat)
  /-- An optional member that is not there. -/
  | absent
  | list (elements : List Datum)
  /-- The members in the order of the schema. -/
  | record (members : List Datum)
  /-- The alternative with the given position. -/
  | choice (position : Nat) (content : Datum)
deriving Inhabited, Repr

/-- What a member holds, where `K` names the parts of the model. -/
inductive Shape (K : Type) where
  | text
  | flag
  | index
  | one (part : K)
  | many (part : K)
deriving Inhabited, Repr

/-- When a member is left out of what is written. -/
inductive Omission where
  | never
  | absent
  | unset
  | empty
deriving DecidableEq, Inhabited, Repr

def Omission.omits : Omission → Datum → Bool
  | .absent, .absent => true
  | .unset, .flag b => !b
  | .empty, .text s => s.isEmpty
  | _, _ => false

structure Member (K : Type) where
  name : String
  shape : Shape K
  /-- Whether `null` stands for its absence. -/
  nullable : Bool
  /-- What stands for a missing member; a member without it is required. -/
  default? : Option Datum
  omission : Omission
deriving Inhabited

namespace Member

variable {K : Type}

def required (name : String) (shape : Shape K) : Member K := ⟨name, shape, false, none, .never⟩

def defaulted (name : String) (shape : Shape K) (default : Datum) : Member K :=
  ⟨name, shape, false, some default, .never⟩

def optional (name : String) (shape : Shape K) : Member K :=
  ⟨name, shape, true, some .absent, .absent⟩

/-- A flag that is written only when set. -/
def setFlag (name : String) : Member K := ⟨name, .flag, false, some (.flag false), .unset⟩

end Member

/-- How a part looks in JSON. -/
inductive Part (K : Type) where
  | record (typeName : String) (members : List (Member K))
  | choice (alternatives : List (String × K))
deriving Inhabited

abbrev Schema (K : Type) := K → Part K

/-! ## A schema inside a larger one -/

def Shape.map {K L : Type} (f : K → L) : Shape K → Shape L
  | .text => .text
  | .flag => .flag
  | .index => .index
  | .one part => .one (f part)
  | .many part => .many (f part)

def Member.map {K L : Type} (f : K → L) (m : Member K) : Member L :=
  ⟨m.name, m.shape.map f, m.nullable, m.default?, m.omission⟩

def Part.map {K L : Type} (f : K → L) : Part K → Part L
  | .record typeName members => .record typeName (members.map (Member.map f))
  | .choice alternatives => .choice (alternatives.map fun (name, part) => (name, f part))

namespace Schema

variable {K : Type}

/-! ## Writing -/

mutual

def writeShape (schema : Schema K) : Shape K → Datum → Value
  | _, .absent => .null
  | _, .text s => .string s
  | _, .flag b => .bool b
  | _, .index n => .number (.natural n)
  | .many part, .list ds => .array (writeAll schema part ds)
  | .one part, .record ds =>
    match schema part with
    | .record _ members => .object (writeMembers schema members ds)
    | .choice _ => .null
  | .one part, .choice position d =>
    match schema part with
    | .record _ _ => .null
    | .choice alternatives =>
      match alternatives[position]? with
      | some (name, part) => .object [(name, writeShape schema (.one part) d)]
      | none => .null
  | _, _ => .null

def writeAll (schema : Schema K) (part : K) : List Datum → List Value
  | [] => []
  | d :: ds => writeShape schema (.one part) d :: writeAll schema part ds

/-- The members that are written, in order. -/
def writeMembers (schema : Schema K) : List (Member K) → List Datum → List (String × Value)
  | m :: ms, d :: ds =>
    if m.omission.omits d then writeMembers schema ms ds
    else (m.name, writeShape schema m.shape d) :: writeMembers schema ms ds
  | _, _ => []

end

/-- The value of a part's content. -/
def write (schema : Schema K) (part : K) (d : Datum) : Value := writeShape schema (.one part) d

/-! ## What both readers share -/

/-- The content of a member that is not there. -/
def missing (m : Member K) : Except ReadError Datum :=
  match m.default? with
  | some d => .ok d
  | none => .error (.missingField m.name)

/-- The members in order, from what was read for each. -/
def settle : List (Member K) → List (Option Datum) → Except ReadError (List Datum)
  | m :: ms, slot :: slots => do
    let d ← match slot with
      | some d => pure d
      | none => missing m
    .ok (d :: (← settle ms slots))
  | _, _ => .ok []

/-- The words for a record as a list of so many elements. -/
def lengthText (typeName : String) (count : Nat) : String :=
  "struct " ++ typeName ++ " with " ++ toString count ++ (if count = 1 then " element" else " elements")

def position? (members : List (Member K)) (name : String) : Option Nat :=
  members.findIdx? (·.name == name)

def alternativeNames (alternatives : List (String × K)) : List String := alternatives.map (·.1)

/-! ## Reading texts -/

/-- A reader of texts: from the characters to the content and the characters after it. -/
abbrev Reader := List Char → Except ReadError (Datum × List Char)

def lift {α : Type} (r : Except Fault α) : Except ReadError α := r.mapError .malformed

/-- The error for a text that goes on with another kind of value than the expected one. Scalar
    values are read first, and faults in them win. -/
def mismatch (expected : String) (cs : List Char) : ReadError :=
  let after (found : Found) (r : Except Fault (List Char)) : ReadError :=
    match r with
    | .ok _ => .wrongType found expected
    | .error f => .malformed f
  let afterNumber (r : Except Fault (Number × List Char)) : ReadError :=
    match r with
    | .ok (n, _) => .wrongType (.number n) expected
    | .error f => .malformed f
  match skipBlank cs with
  | [] => .malformed .endInValue
  | 'n' :: rest => after .null (readWord "ull".toList rest)
  | 't' :: rest => after (.boolean true) (readWord "rue".toList rest)
  | 'f' :: rest => after (.boolean false) (readWord "alse".toList rest)
  | '-' :: rest => afterNumber (readUnsignedNumber true rest)
  | '"' :: rest =>
    match readString rest with
    | .ok (s, _) => .wrongType (.string s) expected
    | .error f => .malformed f
  | '[' :: _ => .wrongType .sequence expected
  | '{' :: _ => .wrongType .map expected
  | c :: rest =>
    if c.isDigit then afterNumber (readUnsignedNumber false (c :: rest))
    else .malformed .expectedValue

def readText (expected : String) (cs : List Char) : Except ReadError (String × List Char) :=
  match skipBlank cs with
  | '"' :: rest => lift (readString rest)
  | _ => .error (mismatch expected cs)

def readFlag (cs : List Char) : Except ReadError (Bool × List Char) :=
  match skipBlank cs with
  | 't' :: rest => do .ok (true, ← lift (readWord "rue".toList rest))
  | 'f' :: rest => do .ok (false, ← lift (readWord "alse".toList rest))
  | _ => .error (mismatch "a boolean" cs)

/-- The natural number that an index is given as. -/
def indexOf : Number → Except ReadError Nat
  | .natural n => .ok n
  | .negative n => .error (.wrongValue (.number (.negative n)) "usize")
  | .float x => .error (.wrongType (.number (.float x)) "usize")

def readIndex (cs : List Char) : Except ReadError (Nat × List Char) :=
  let finish (r : Except Fault (Number × List Char)) : Except ReadError (Nat × List Char) := do
    let (n, rest) ← lift r
    .ok (← indexOf n, rest)
  match skipBlank cs with
  | '-' :: rest => finish (readUnsignedNumber true rest)
  | c :: rest =>
    if c.isDigit then finish (readUnsignedNumber false (c :: rest))
    else .error (mismatch "usize" cs)
  | [] => .error (mismatch "usize" cs)

/-- The readers of the parts below a given one: of a part held directly, and of the elements of
    a list, if a list may still be opened. -/
structure Below (K : Type) where
  part : K → Reader
  element? : Option (K → Reader)

def readElements (read : Reader) : Nat → Continuation → Except ReadError (List Datum × List Char)
  | _, .done rest => .ok ([], rest)
  | 0, .next _ => .error (.malformed .endInList)
  | fuel + 1, .next cs => do
    let (d, rest) ← read cs
    let (ds, rest) ← readElements read fuel (← lift (afterElement rest))
    .ok (d :: ds, rest)

def readMany (element? : Option (Reader)) (cs : List Char) : Except ReadError (Datum × List Char) :=
  match skipBlank cs with
  | '[' :: rest =>
    match element? with
    | none => .error (.malformed .tooDeep)
    | some read => do
      let (ds, rest) ← readElements read rest.length (← lift (firstElement rest))
      .ok (.list ds, rest)
  | _ => .error (mismatch "a sequence" cs)

def readShape (below : Below K) (shape : Shape K) (cs : List Char) : Except ReadError (Datum × List Char) :=
  match shape with
  | .text => do
    let (s, rest) ← readText "a string" cs
    .ok (.text s, rest)
  | .flag => do
    let (b, rest) ← readFlag cs
    .ok (.flag b, rest)
  | .index => do
    let (n, rest) ← readIndex cs
    .ok (.index n, rest)
  | .one part => below.part part cs
  | .many part => readMany (below.element?.map fun read => read part) cs

def readMember (below : Below K) (m : Member K) (cs : List Char) : Except ReadError (Datum × List Char) :=
  match m.nullable, skipBlank cs with
  | true, 'n' :: rest => do .ok (.absent, ← lift (readWord "ull".toList rest))
  | _, _ => readShape below m.shape cs

/-- The members of an object, each put into the slot of its position. -/
def readObject (below : Below K) (members : List (Member K)) :
    Nat → List (Option Datum) → Continuation → Except ReadError (List (Option Datum) × List Char)
  | _, slots, .done rest => .ok (slots, rest)
  | 0, _, .next _ => .error (.malformed .endInObject)
  | fuel + 1, slots, .next cs => do
    let (key, rest) ← lift (readString cs)
    match position? members key with
    | none =>
      let rest ← lift (skipValue (← lift (readColon rest)))
      readObject below members fuel slots (← lift (afterMember rest))
    | some i =>
      match slots[i]?, members[i]? with
      | some none, some m =>
        let (d, rest) ← readMember below m (← lift (readColon rest))
        readObject below members fuel (slots.set i (some d)) (← lift (afterMember rest))
      | _, _ => .error (.duplicateField key)

/-- The end of a list that has given all the elements it can. -/
def closeArray (cs : List Char) : Except ReadError (List Char) :=
  match skipBlank cs with
  | [] => .error (.malformed .endInList)
  | ']' :: rest => .ok rest
  | ',' :: rest =>
    match skipBlank rest with
    | ']' :: _ => .error (.malformed .trailingComma)
    | _ => .error (.malformed .trailingCharacters)
  | _ => .error (.malformed .trailingCharacters)

/-- The members of a record written as a list, `count` of which have been read; `next` gives what
    stands before the next one. -/
def readArray (below : Below K) (lengthError : Nat → ReadError) :
    Nat → List (Member K) → (List Char → Except Fault Continuation) → List Char →
      Except ReadError (List Datum × List Char)
  | _, [], _, cs => do .ok ([], ← closeArray cs)
  | count, m :: ms, next, cs => do
    match ← lift (next cs) with
    | .next cs =>
      let (d, rest) ← readMember below m cs
      let (ds, rest) ← readArray below lengthError (count + 1) ms afterElement rest
      .ok (d :: ds, rest)
    | .done rest =>
      let ds ← (m :: ms).mapM fun m =>
        match m.default? with
        | some d => .ok d
        | none => .error (lengthError count)
      .ok (ds, rest)

/-- What follows the content of a choice: nothing but the closing brace. -/
def closeChoice (cs : List Char) : Except ReadError (List Char) :=
  match skipBlank cs with
  | [] => .error (.malformed .endInObject)
  | '}' :: rest => .ok rest
  | _ => .error (.malformed .expectedValue)

def alternative? (alternatives : List (String × K)) (name : String) :
    Except ReadError (Nat × K) :=
  match alternatives.findIdx? (·.1 == name) with
  | none => .error (.unknownVariant name (alternativeNames alternatives))
  | some i =>
    match alternatives[i]? with
    | some (_, part) => .ok (i, part)
    | none => .error (.unknownVariant name (alternativeNames alternatives))

/-- Reads a part from a text; `depth` arrays and objects may still be opened. -/
def readPart (schema : Schema K) : Nat → K → Reader
  | depth, part, cs =>
    match schema part with
    | .record typeName members =>
      match skipBlank cs with
      | '{' :: rest =>
        match depth with
        | 0 => .error (.malformed .tooDeep)
        | depth + 1 => do
          let below : Below K := ⟨readPart schema depth, match depth with
            | 0 => none
            | depth + 1 => some (readPart schema depth)⟩
          let slots := members.map fun _ => none
          let (slots, rest) ← readObject below members rest.length slots (← lift (firstMember rest))
          .ok (.record (← settle members slots), rest)
      | '[' :: rest =>
        match depth with
        | 0 => .error (.malformed .tooDeep)
        | depth + 1 => do
          let below : Below K := ⟨readPart schema depth, match depth with
            | 0 => none
            | depth + 1 => some (readPart schema depth)⟩
          let lengthError (n : Nat) := ReadError.wrongLength n (lengthText typeName members.length)
          let (ds, rest) ← readArray below lengthError 0 members firstElement rest
          .ok (.record ds, rest)
      | _ => .error (mismatch ("struct " ++ typeName) cs)
    | .choice alternatives =>
      match skipBlank cs with
      | [] => .error (.malformed .endInValue)
      | '{' :: rest =>
        match depth with
        | 0 => .error (.malformed .tooDeep)
        | depth + 1 => do
          let (name, rest) ← readText "variant identifier" rest
          let (i, part) ← alternative? alternatives name
          let (d, rest) ← readPart schema depth part (← lift (readColon rest))
          .ok (.choice i d, ← closeChoice rest)
      | '"' :: rest => do
        let (name, _) ← lift (readString rest)
        let _ ← alternative? alternatives name
        .error (.wrongType .unitVariant "newtype variant")
      | _ => .error (.malformed .expectedValue)

/-- What is left after the value of a text must be blank. -/
def finish {α : Type} (r : Except ReadError (α × List Char)) : Except ReadError α := do
  let (a, rest) ← r
  if (skipBlank rest).isEmpty then .ok a else .error (.malformed .trailingCharacters)

/-- The content of the part that a text holds. -/
def read (schema : Schema K) (part : K) (text : String) : Except ReadError Datum :=
  finish (readPart schema maxDepth part text.toList)

/-- The contents of the list of parts that a text holds. -/
def readList (schema : Schema K) (part : K) (text : String) : Except ReadError Datum :=
  finish (readMany (some (readPart schema (maxDepth - 1) part)) text.toList)

/-! ## Taking values apart -/

def foundIn : Value → Found
  | .null => .null
  | .bool b => .boolean b
  | .number n => .number n
  | .string s => .string s
  | .array _ => .sequence
  | .object _ => .map

/-- Puts members that have been looked up and taken apart into their slots, in order. -/
def fillSlots : List (Option Datum) → List (String × Option (Nat × Except ReadError Datum)) →
    Except ReadError (List (Option Datum))
  | slots, [] => .ok slots
  | slots, (_, none) :: rest => fillSlots slots rest
  | slots, (name, some (i, r)) :: rest =>
    match slots[i]? with
    | some none => do fillSlots (slots.set i (some (← r))) rest
    | _ => .error (.duplicateField name)

/-- The members of a record given position by position. -/
def fillPositions (lengthError : Nat → ReadError) :
    Nat → List (Member K) → List (Except ReadError Datum) → Except ReadError (List Datum)
  | _, [], _ => .ok []
  | count, _ :: ms, r :: rs => do
    let d ← r
    .ok (d :: (← fillPositions lengthError (count + 1) ms rs))
  | count, m :: ms, [] => do
    match m.default? with
    | some d => .ok (d :: (← fillPositions lengthError count ms []))
    | none => .error (lengthError count)

mutual

/-- The content of a shape, from a value. -/
def shapeOf (schema : Schema K) (nullable : Bool) : Shape K → Value → Except ReadError Datum
  | shape, .null =>
    if nullable then .ok .absent
    else match shape with
      | .text => .error (.wrongType .null "a string")
      | .flag => .error (.wrongType .null "a boolean")
      | .index => .error (.wrongType .null "usize")
      | .many _ => .error (.wrongType .null "a sequence")
      | .one part =>
        match schema part with
        | .record typeName _ => .error (.wrongType .null ("struct " ++ typeName))
        | .choice _ => .error (.wrongType .null "string or map")
  | .text, .string s => .ok (.text s)
  | .text, v => .error (.wrongType (foundIn v) "a string")
  | .flag, .bool b => .ok (.flag b)
  | .flag, v => .error (.wrongType (foundIn v) "a boolean")
  | .index, .number n => do .ok (.index (← indexOf n))
  | .index, v => .error (.wrongType (foundIn v) "usize")
  | .many part, .array vs => do .ok (.list (← elementsOf schema part vs))
  | .many _, v => .error (.wrongType (foundIn v) "a sequence")
  | .one part, .object ms =>
    match schema part with
    | .record _ members => do
      let slots ← fillSlots (members.map fun _ => none) (membersOf schema members ms)
      .ok (.record (← settle members slots))
    | .choice alternatives =>
      match contentsOf schema alternatives ms with
      | [r] => r
      | _ => .error (.wrongValue .map "map with a single key")
  | .one part, .array vs =>
    match schema part with
    | .record typeName members => do
      let lengthError (n : Nat) := ReadError.wrongLength n (lengthText typeName members.length)
      let ds ← fillPositions lengthError 0 members (positionsOf schema members vs)
      if members.length < vs.length then
        .error (.wrongLength vs.length "fewer elements in array")
      else .ok (.record ds)
    | .choice _ => .error (.wrongType .sequence "string or map")
  | .one part, .string s =>
    match schema part with
    | .record typeName _ => .error (.wrongType (.string s) ("struct " ++ typeName))
    | .choice alternatives => do
      let _ ← alternative? alternatives s
      .error (.wrongType .unitVariant "newtype variant")
  | .one part, v =>
    match schema part with
    | .record typeName _ => .error (.wrongType (foundIn v) ("struct " ++ typeName))
    | .choice _ => .error (.wrongType (foundIn v) "string or map")

def elementsOf (schema : Schema K) (part : K) : List Value → Except ReadError (List Datum)
  | [] => .ok []
  | v :: vs => do
    let d ← shapeOf schema false (.one part) v
    .ok (d :: (← elementsOf schema part vs))

/-- Each known member with its position and what it holds. -/
def membersOf (schema : Schema K) (members : List (Member K)) :
    List (String × Value) → List (String × Option (Nat × Except ReadError Datum))
  | [] => []
  | (name, v) :: rest =>
    (name, do
      let i ← position? members name
      let m ← members[i]?
      some (i, shapeOf schema m.nullable m.shape v)) :: membersOf schema members rest

/-- Each member as an alternative. -/
def contentsOf (schema : Schema K) (alternatives : List (String × K)) :
    List (String × Value) → List (Except ReadError Datum)
  | [] => []
  | (name, v) :: rest =>
    (do
      let (i, part) ← alternative? alternatives name
      .ok (.choice i (← shapeOf schema false (.one part) v)))
    :: contentsOf schema alternatives rest

def positionsOf (schema : Schema K) : List (Member K) → List Value → List (Except ReadError Datum)
  | m :: ms, v :: vs => shapeOf schema m.nullable m.shape v :: positionsOf schema ms vs
  | _, _ => []

end

/-- The content of a part, from a value. -/
def ofValue (schema : Schema K) (part : K) (v : Value) : Except ReadError Datum :=
  shapeOf schema false (.one part) v

end Schema

end DocMark.Json
