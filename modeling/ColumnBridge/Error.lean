/-!
The ways in which marshalling a value or a column can fail.

* `MarshalError`: one constructor per cause, with what the caller needs to know about it;
* `MarshalError.name`, `MarshalError.message`: the name of the cause and the wording, in one place;
* `MarshalError.isMalformedInput`: the causes that lie in the input handed over and not in the data;
* `Halt`: a failure, or an overflow that no caller gets to see, since it ends the program.
-/

namespace ColumnBridge

/-- A failure of the marshalling layer. -/
inductive MarshalError
  /-- Memory for `context` could not be had. -/
  | outOfMemory (context : String)
  /-- A text that names no row. -/
  | malformedRowId (input : String)
  /-- A text that is no decimal of the wanted scale. -/
  | malformedDecimal (input message : String)
  /-- A decimal with more digits than its column holds. -/
  | decimalOverflow (precision scale : Nat)
  /-- A type name, or type parameters, that the layer does not know. -/
  | unknownType (name : String)
  /-- One kind of value, storage or array where another one is due. -/
  | typeMismatch (expected actual : String)
  /-- A value that `target` cannot represent. -/
  | valueConversion (target message : String)
  /-- The object host refused. -/
  | host (message : String)
  /-- Rows `first` to `last` of a column that has only `count` rows. -/
  | rowOutOfRange (first last count : Nat)
  /-- The columns make no Arrow batch. -/
  | arrow (message : String)
  deriving DecidableEq, Repr

namespace MarshalError

/-- The name of a cause. -/
def name : MarshalError → String
  | outOfMemory _ => "out_of_memory"
  | malformedRowId _ => "malformed_row_id"
  | malformedDecimal _ _ => "malformed_decimal"
  | decimalOverflow _ _ => "decimal_overflow"
  | unknownType _ => "unknown_type"
  | typeMismatch _ _ => "type_mismatch"
  | valueConversion _ _ => "value_conversion"
  | host _ => "host"
  | rowOutOfRange _ _ _ => "row_out_of_range"
  | arrow _ => "arrow"

/-- The wording of a failure. -/
def message : MarshalError → String
  | outOfMemory context => s!"Could not allocate space ({context})"
  | malformedRowId input => s!"Wrong OID format: {input}"
  | malformedDecimal input message => s!"invalid decimal '{input}': {message}"
  | decimalOverflow precision scale => s!"decimal overflow: precision {precision}, scale {scale}"
  | unknownType name => s!"Unknown MonetDB type: {name}"
  | typeMismatch expected actual => s!"type mismatch: expected {expected}, got {actual}"
  | valueConversion target message => s!"value conversion failed for {target}: {message}"
  | host message => s!"host object failure: {message}"
  | rowOutOfRange first last count => s!"row range {first}..{last} out of bounds for {count} rows"
  | arrow message => s!"arrow error: {message}"

/-- The causes that lie in the text or the value handed over. -/
def isMalformedInput : MarshalError → Bool
  | malformedRowId _ | malformedDecimal _ _ | typeMismatch _ _ => true
  | _ => false

end MarshalError

/-- How a computation ends without a result: with a failure, which its caller gets, or in an arithmetic step
whose result is no machine integer. Such a step is nobody's failure: it ends the program. -/
inductive Halt (ε : Type)
  | failure (e : ε)
  | overflow
  deriving DecidableEq, Repr

namespace Halt

variable {ε ε' α : Type}

/-- The same end with the failure of another layer. -/
def map (f : ε → ε') : Halt ε → Halt ε'
  | failure e => failure (f e)
  | overflow => overflow

/-- The result of a computation that has failures alone. -/
def lift (r : Except ε α) : Except (Halt ε) α := r.mapError failure

/-- The result of arithmetic, which is none where a step overflows. -/
def unlessOverflow : Option α → Except (Halt ε) α
  | some a => .ok a
  | none => .error overflow

end Halt

end ColumnBridge
