import Gallery.Store
import Gallery.Text.FilePath
import Gallery.Text.Numeral

/-!
# `Gallery.Store.Written` — the text of a store

A store is written as lines of fields with tabs between them: the numbers given last, then one line
a row.  Tabs and line ends inside a field are escaped, and an optional field that is present starts
with an equality sign.

## Contents
- `encodeField` and `decodeField?`, with `decodeField?_encodeField`.
- `Store.write` and `Store.read?`.
-/

namespace Gallery

open Gallery.Text

/-! ## Fields -/

/-- The text of a field. -/
def encodeField : List Char → List Char
  | [] => []
  | c :: rest =>
    (if c = '\\' then ['\\', '\\']
      else if c = '\t' then ['\\', 't']
      else if c = '\n' then ['\\', 'n']
      else [c]) ++ encodeField rest

/-- The field with a text. -/
def decodeField? : List Char → Option (List Char)
  | [] => some []
  | '\\' :: c :: rest =>
    (match c with
      | '\\' => some '\\'
      | 't' => some '\t'
      | 'n' => some '\n'
      | _ => none).bind fun d => (decodeField? rest).map (d :: ·)
  | c :: rest => if c = '\\' then none else (decodeField? rest).map (c :: ·)

/-- Fields are read back as they were. -/
theorem decodeField?_encodeField (cs : List Char) : decodeField? (encodeField cs) = some cs := by
  induction cs with
  | nil => rfl
  | cons c rest ih =>
    by_cases hb : c = '\\'
    · subst hb
      simp [encodeField, decodeField?, ih]
    · by_cases ht : c = '\t'
      · subst ht
        simp [encodeField, decodeField?, ih]
      · by_cases hn : c = '\n'
        · subst hn
          simp [encodeField, decodeField?, ih]
        · simp [encodeField, decodeField?, ih, hb, ht, hn]

/-- A line of fields. -/
def encodeLine (fields : List String) : String :=
  "\t".intercalate (fields.map fun f => String.ofList (encodeField f.toList))

/-- The fields of a line. -/
def decodeLine? (line : List Char) : Option (List String) :=
  (split '\t' line).mapM fun f => (decodeField? f).map String.ofList

/-- The text of an optional field. -/
def encodeOption : Option String → String
  | none => ""
  | some s => "=" ++ s

/-- The optional field with a text. -/
def decodeOption? (s : String) : Option (Option String) :=
  match s.toList with
  | [] => some none
  | '=' :: cs => some (some (String.ofList cs))
  | _ => none

/-- The hexadecimal digits of some bytes. -/
def encodeBytes (bytes : List UInt8) : String :=
  String.ofList (bytes.flatMap fun b => writeHex 2 b.toNat)

/-- The bytes with some hexadecimal digits. -/
def decodeBytes? : List Char → Option (List UInt8)
  | [] => some []
  | c :: d :: rest => do return UInt8.ofNat (← readHex? [c, d]) :: (← decodeBytes? rest)
  | _ => none

/-- The number with some digits. -/
def decodeInt? (s : String) : Option Int := readInt? s.toList

namespace Store

/-! ## Writing -/

/-- The lines of a store. -/
def lines (s : Store) : List (List String) :=
  ["last", toString s.images.last, toString s.types.last, toString s.tags.last]
    :: (s.types.rows.entries.map fun (id, r) =>
        ["type", toString id, r.label, r.symbol, toString r.color])
      ++ (s.tags.rows.entries.map fun (id, r) =>
        ["tag", toString id, r.label, encodeOption (r.typeId.map toString),
          encodeOption r.definition])
      ++ (s.images.rows.entries.map fun (id, r) =>
        ["image", toString id, r.path, encodeOption (r.fingerprint.map encodeBytes)]
          ++ r.tags.toList.map toString)

/-- The text of a store. -/
def write (s : Store) : String := String.join (s.lines.map fun l => encodeLine l ++ "\n")

/-! ## Reading -/

/-- Puts a row under its number. -/
def put {ν : Type} (t : Numbered ν) (id : Int) (row : ν) : Numbered ν :=
  { t with rows := t.rows.insert id row }

/-- Adds what a line says to a store. -/
def readLine? (s : Store) : List String → Option Store
  | ["last", images, types, tags] => do
    return { s with
      images := { s.images with last := ← decodeInt? images }
      types := { s.types with last := ← decodeInt? types }
      tags := { s.tags with last := ← decodeInt? tags } }
  | ["type", id, label, symbol, color] => do
    return { s with types := put s.types (← decodeInt? id) ⟨label, symbol, ← decodeInt? color⟩ }
  | ["tag", id, label, typeId, definition] => do
    let typeId ← (← decodeOption? typeId).mapM decodeInt?
    return { s with tags := put s.tags (← decodeInt? id) ⟨label, typeId, ← decodeOption? definition⟩ }
  | "image" :: id :: path :: fingerprint :: tags => do
    let fingerprint ← (← decodeOption? fingerprint).mapM fun f => decodeBytes? f.toList
    let tags := KeySet.ofList (← tags.mapM decodeInt?)
    return { s with images := put s.images (← decodeInt? id) ⟨path, fingerprint, tags⟩ }
  | _ => none

/-- The store with a text. -/
def read? (text : String) : Option Store := do
  let lines := (split '\n' text.toList).filter (!·.isEmpty)
  (← lines.mapM decodeLine?).foldlM readLine? ∅

end Store

end Gallery
