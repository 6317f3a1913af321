import JsxTagger.Failure.Failure
import JsxTagger.Instrument.Run

/-!
# What stops instrumentation

A file that cannot be parsed is a failure that is reported. Whatever else stops instrumentation is a
fault that nobody expected.
-/

namespace JsxTagger

/-- The fault of an edit that cannot be planned or applied. -/
def Edit.Error.fault (e : Edit.Error) : Fault :=
  match e with
  | .notText => ⟨.undecodable, e.message⟩
  | .unencodable _ => ⟨.unencodable, e.message⟩
  | _ => ⟨.badValue, e.message⟩

/-- The fault of a malformed record, where `room` calls are left to show what is wrong with it. -/
def RecordFault.fault (room : Nat) : RecordFault → Fault
  | .wrongType => ⟨.wrongType, ""⟩
  | .missingKey => ⟨.missingKey, ""⟩
  | .unknownKind value =>
    (value.obstacle? room).getD ⟨.badValue, s!"{value.shown} is not a valid ComponentKind"⟩

namespace Instrument

/-- The fault behind an error of instrumentation. -/
def InstrumentError.fault : InstrumentError → Fault
  | .edit cause => cause.fault
  | .illegible => ⟨.undecodable, ""⟩
  | .tooDeep => .tooDeep
  | .unnamedElement => ⟨.missingPart, "'NoneType' object has no attribute 'end_byte'"⟩
  | .unusableLocator type => ⟨.wrongType, s!"unhashable type: '{type}'"⟩

/-- What stopped the instrumentation of a file. -/
def SourceError.trouble : SourceError → Trouble
  | .unencodable cause => .fault ⟨.unencodable, cause.message⟩
  | .unparsed fault => .failure (.ofSyntaxFault fault)
  | .failed cause => .fault cause.fault

end Instrument

end JsxTagger
