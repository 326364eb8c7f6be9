import Cabinet.Binder.Format
import Cabinet.Json.Parser
import Cabinet.Properties.Basic

/-!
Binders turn documents into bytes and back, each for some formats. A list of binders leaves the work
to the first that supports the format.
-/

namespace Cabinet

/-- How a document is laid out as JSON text. -/
inductive JsonStyle where
  | compact
  | pretty
  | strict
  deriving DecidableEq, Repr

def JsonStyle.write (style : JsonStyle) (d : Document) : List Char :=
  match style with
  | compact => d.compact
  | pretty => d.pretty
  | strict => d.strict.compact

inductive Binder where
  | json (style : JsonStyle)
  | properties
  | first (binders : List Binder)

namespace Binder

/-- The binder for JSON and properties text. -/
def standard : Binder := first [json .compact, properties]

mutual

def supports (f : Format) : Binder → Bool
  | json _ => f.isJson
  | properties => f.isProperties
  | first binders => anySupports f binders

def anySupports (f : Format) : List Binder → Bool
  | [] => false
  | b :: rest => b.supports f || anySupports f rest

end

def decodeJson (bytes : List UInt8) (f : Format) : Except DocumentError Document :=
  match Document.ofBytes bytes with
  | .ok d => .ok d
  | .error (.parse _ _ text) => .error (.decode f.text text)
  | .error e => .error e

def decodeProperties (bytes : List UInt8) (f : Format) : Except DocumentError Document :=
  match Utf8.decode bytes with
  | .error e => .error (.decode f.text e.message)
  | .ok text => (Properties.read text).mapError fun e => .decode f.text e.message

def encodeProperties (d : Document) (f : Format) : Except DocumentError (List UInt8) :=
  match d with
  | .object ms =>
    match Properties.writeMembers [] ms with
    | .ok text => .ok (Utf8.encode text)
    | .error above =>
      let above := String.ofList above
      .error (.encode f.text s!"empty key under '{above}' cannot be written")
  | d => .error (.encode f.text s!"expected an object at the root, found {d.kind.name}")

mutual

/-- Read a document from bytes of a format. -/
def decode (bytes : List UInt8) (f : Format) : Binder → Except DocumentError Document
  | json _ => if f.isJson then decodeJson bytes f else .error (.unsupportedFormat f.text)
  | properties =>
    if f.isProperties then decodeProperties bytes f else .error (.unsupportedFormat f.text)
  | first binders => decodeFirst bytes f binders

def decodeFirst (bytes : List UInt8) (f : Format) : List Binder → Except DocumentError Document
  | [] => .error (.unsupportedFormat f.text)
  | b :: rest => if b.supports f then b.decode bytes f else decodeFirst bytes f rest

end

mutual

/-- Write a document as bytes of a format. -/
def encode (d : Document) (f : Format) : Binder → Except DocumentError (List UInt8)
  | json style =>
    if f.isJson then .ok (Utf8.encode (style.write d)) else .error (.unsupportedFormat f.text)
  | properties =>
    if f.isProperties then encodeProperties d f else .error (.unsupportedFormat f.text)
  | first binders => encodeFirst d f binders

def encodeFirst (d : Document) (f : Format) : List Binder → Except DocumentError (List UInt8)
  | [] => .error (.unsupportedFormat f.text)
  | b :: rest => if b.supports f then b.encode d f else encodeFirst d f rest

end

end Binder

end Cabinet
