/-!
Comma-separated values. A record is a line of fields, and ends with a line feed, a
carriage return or both. A field that starts with a quote goes on to the next single
quote, whatever stands in it, and a double quote inside it is a quote; a quote
inside any other field is like any other byte. Empty lines are no records.
-/
namespace Stablecoin.Csv

/-- A field, as its bytes. -/
abbrev Bytes := List UInt8

/-- Where a reader stands in a text. -/
inductive Place where
  /-- Before the first byte of a record. -/
  | record
  /-- Before the first byte of a field. -/
  | field
  | plain
  | quoted
  /-- Behind a quote inside a quoted field: the end of the quotes, or half of a quote. -/
  | quote

/-- A reader: its place, the field and the record that it is in, and the records
    before them, the last part of everything first. -/
structure Reader where
  place : Place
  field : Bytes
  fields : List Bytes
  records : List (List Bytes)

namespace Reader

def start : Reader := ⟨.record, [], [], []⟩

def isLineEnd (b : UInt8) : Bool := b == 10 || b == 13

def isQuote (b : UInt8) : Bool := b == 34

def isComma (b : UInt8) : Bool := b == 44

/-- The reader behind one more byte of a field. -/
def push (reader : Reader) (place : Place) (b : UInt8) : Reader :=
  { reader with place, field := b :: reader.field }

def endField (reader : Reader) : Reader :=
  { reader with place := .field, field := [], fields := reader.field.reverse :: reader.fields }

def endRecord (reader : Reader) : Reader :=
  let ended := reader.endField
  { place := .record, field := [], fields := [], records := ended.fields.reverse :: ended.records }

/-- Goes on with a byte that stands outside of quotes. -/
def unquoted (reader : Reader) (b : UInt8) : Reader :=
  if isComma b then reader.endField else if isLineEnd b then reader.endRecord else reader.push .plain b

/-- The reader behind one more byte. -/
def next (reader : Reader) (b : UInt8) : Reader :=
  match reader.place with
  | .record =>
    if isLineEnd b then reader
    else if isQuote b then { reader with place := .quoted }
    else reader.unquoted b
  | .field => if isQuote b then { reader with place := .quoted } else reader.unquoted b
  | .plain => reader.unquoted b
  | .quoted => if isQuote b then { reader with place := .quote } else reader.push .quoted b
  | .quote => if isQuote b then reader.push .quoted b else reader.unquoted b

/-- All records once the text has ended. The last one needs no line end. -/
def finish (reader : Reader) : List (List Bytes) :=
  match reader.place with
  | .record => reader.records.reverse
  | _ => reader.endRecord.records.reverse

end Reader

/-- The text without the mark of its byte order. -/
def withoutMark : Bytes → Bytes
  | 0xEF :: 0xBB :: 0xBF :: rest => rest
  | bytes => bytes

/-- The records of a text. -/
def records (bytes : Bytes) : List (List Bytes) := ((withoutMark bytes).foldl Reader.next Reader.start).finish

end Stablecoin.Csv
