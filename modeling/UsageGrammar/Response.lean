import UsageGrammar.Bindings

/-!
# Responses

The answer to one argument vector: bindings, a text to print, or an error with a process status.
-/

namespace UsageGrammar

/-- The answer to one argument vector. -/
structure Response where
  /-- The vector matches, or help or the version is asked for. -/
  success : Bool
  bindings : Bindings
  /-- The status that a process would end with. -/
  errorStatus : Int
  errorMessage : Option String
  /-- The help or version text. -/
  output : Option String

/-- The end of a process. -/
structure Exit where
  status : Int
  stdout : String
  stderr : String
  deriving Repr, DecidableEq, Inhabited

namespace Response

/-- The answer to a vector that matches. -/
def matched (bindings : Bindings) : Response :=
  ⟨true, bindings, 0, none, none⟩

/-- The answer to a request for a text. -/
def printed (text : String) : Response :=
  { matched .empty with output := some text }

/-- The answer to a vector that does not match. -/
def failed (message : String) : Response :=
  ⟨false, .empty, 1, some message, none⟩

/-- The value bound to a name. -/
def get? (response : Response) (name : String) : Option Value :=
  response.bindings.get? name

/-- How a process ends with this answer. A plain match ends nothing. -/
def exit? (response : Response) : Option Exit :=
  if response.success then
    response.output.map fun text => ⟨0, text ++ "\n", ""⟩
  else
    some ⟨response.errorStatus, "", (response.errorMessage.map (· ++ "\n")).getD ""⟩

end Response

end UsageGrammar
