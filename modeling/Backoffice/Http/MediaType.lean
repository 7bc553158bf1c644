import Backoffice.Text.Case

namespace Backoffice.Http

structure MediaType where
  kind : String
  subtype : String
  suffix : Option String
  deriving DecidableEq, Repr

namespace MediaType

def isToken (c : Char) : Bool := c.isAlphanum || "!#$%&'*+-.^_`|~".toList.contains c

def isQuotable (c : Char) : Bool := 31 < c.toNat && c.toNat != 127

inductive ParamState where
  | nameStart
  | name
  | valueStart
  | value
  | quotedStart
  | quoted
  | afterQuoted
  deriving DecidableEq, Repr

namespace ParamState

def mayEnd : ParamState → Bool
  | nameStart | valueStart | value | afterQuoted => true
  | name | quotedStart | quoted => false

def step : ParamState → Char → Option ParamState
  | nameStart, c => if c == ' ' then some nameStart else if isToken c then some name else none
  | name, c => if c == '=' then some valueStart else if isToken c then some name else none
  | valueStart, c => if c == '"' then some quotedStart else if isToken c then some value else none
  | value, c => if c == ';' then some nameStart else if isToken c then some value else none
  | quotedStart, c => if isQuotable c then some quoted else none
  | quoted, c =>
    if c == '"' then some afterQuoted else if isQuotable c then some quoted else none
  | afterQuoted, c =>
    if c == ';' then some nameStart else if c == ' ' then some afterQuoted else none

end ParamState

def areParams (cs : List Char) : Bool :=
  match cs.foldlM ParamState.step .nameStart with
  | some s => s.mayEnd
  | none => false

/-- The parts around the last `+` that does not come first. -/
def splitSuffix (cs : List Char) : String × Option String :=
  let suffix := cs.reverse.takeWhile (· != '+')
  if suffix.length + 1 < cs.length then
    (String.ofList (cs.take (cs.length - suffix.length - 1)), some (String.ofList suffix.reverse))
  else (String.ofList cs, none)

def parse? (s : String) : Option MediaType :=
  let kind := s.toList.takeWhile isToken
  match s.toList.dropWhile isToken with
  | '/' :: rest =>
    let subtype := rest.takeWhile isToken
    let params := rest.dropWhile isToken
    let bounded := match params with
      | [] => true
      | c :: more => c == ';' && !subtype.isEmpty && areParams more
    if kind.isEmpty || !bounded then none
    else
      let (base, suffix) := splitSuffix subtype
      some ⟨Text.lower (String.ofList kind), Text.lower base, suffix.map Text.lower⟩
  | _ => none

def isJson (m : MediaType) : Bool :=
  m.kind == "application" && (m.subtype == "json" || m.suffix == some "json")

end MediaType

end Backoffice.Http
