import BundleInspect.Log.Event

/-!
# Log filters

A text asks for the events that are shown. Reading such texts is left to a reader of filters; what the
program relies on is stated in `FilterReader.Laws`.
-/

namespace BundleInspect.Log

/-- What a filter goes by. -/
structure Metadata where
  level : Level
  origin : String
  fieldNames : List String

def Event.metadata (e : Event) : Metadata :=
  ⟨e.level, e.origin, e.fieldNames⟩

abbrev Filter := Metadata → Bool

def Filter.lines (filter : Filter) (events : List Event) : List String :=
  (events.filter fun e => filter e.metadata).map Event.line

/-! ## Readers -/

inductive Reply where
  | accepted (filter : Filter)
  | refused
  /-- The reader gives up, and the program ends with it. -/
  | crashed (said : String)

structure FilterReader where
  strict : String → Reply
  /-- Passes over what is malformed. -/
  lenient : String → Filter

namespace FilterReader

def fallback : String :=
  "bundlekit=warn"

def read (reader : FilterReader) (text : String) : Except String Filter :=
  match reader.strict text with
  | .accepted filter => .ok filter
  | .refused => .ok (reader.lenient fallback)
  | .crashed said => .error said

end FilterReader
end BundleInspect.Log
