/-!
What can go wrong, by cause, and the text that says so.

A path that no route matches is no fault and does not occur here. Where a fault comes from the
syntax of another format (an expression, a document, an encoded payload) or from the file system,
its text ends in `*`: the details are not part of it.
-/

namespace Routing

/-- What is wrong with a pattern. -/
inductive PatternFault where
  | emptyConstraint (parameter : String)
  | badConstraint (parameter : String)
  /-- A `(` has no `)`. -/
  | groupOpen
  /-- A `)` has no `(`. -/
  | groupNotOpened
  /-- The text ends within a parameter, of which `read` has been read. -/
  | parameterOpen (read : String)
  | emptyName
  | badName (name : String)
  | repeatedName (name : String)
  /-- The constraints are valid one by one, and the expression made of them is not. -/
  | badExpression
  /-- The expression has lost the group of a parameter. -/
  | noCapture (parameter : String)
  deriving DecidableEq, Repr

/-- The text of a fault of a pattern. -/
def PatternFault.message : PatternFault → String
  | emptyConstraint name => s!"empty constraint for parameter '{name}'"
  | badConstraint name => s!"invalid constraint for parameter '{name}': *"
  | groupOpen => "unclosed optional group"
  | groupNotOpened => "unmatched ')' closing no optional group"
  | parameterOpen read => s!"unclosed parameter '<{read}'"
  | emptyName => "empty parameter name"
  | badName name => s!"invalid parameter name '{name}': only [A-Za-z0-9_] are allowed"
  | repeatedName name => s!"parameter '{name}' is declared twice"
  | badExpression => "invalid route expression: *"
  | noCapture name => s!"expression has no capture for '{name}'"

/-- What is wrong with a configuration. -/
inductive ConfigFault where
  /-- A document is malformed. The first text names the kind of document. -/
  | malformed (document : String)
  /-- The values of a settings document do not fit. -/
  | unfit (document : String)
  /-- A file cannot be read. The first text names the kind of file. -/
  | unreadable (file path : String)
  /-- A file of routes is neither TOML nor JSON. -/
  | unsupported (path : String)
  /-- A log directory is no directory. -/
  | noLogDirectory (path : String)
  /-- A store refuses an operation. -/
  | refused (operation : String)
  deriving DecidableEq, Repr

/-- The text of a fault of a configuration. -/
def ConfigFault.message : ConfigFault → String
  | malformed document => s!"Failed to parse {document}: *"
  | unfit document => s!"Failed to deserialize settings from {document}: *"
  | unreadable file path => s!"Failed to read {file} file '{path}': *"
  | unsupported path => s!"Unsupported routes file '{path}': expected .toml or .json"
  | noLogDirectory path => s!"Log directory '{path}' must exist and be a directory"
  | refused operation => s!"store cannot {operation}"

/-- What is wrong with written data that is read back. -/
inductive DataFault where
  /-- The parameters listed for a route are not those of its segments. -/
  | namesDiffer (pattern : String)
  /-- A route has two parameters of one name; the second one stands at `position`. -/
  | repeatedParameter (pattern parameter : String) (position : Nat)
  /-- The expression written down for a route is not that of its segments. -/
  | expressionDiffers (pattern : String)
  /-- Two routes of a table have one name. -/
  | repeatedRoute (name : String)
  /-- A session payload is not Base64. -/
  | badEncoding
  /-- A session payload does not hold a JSON object. -/
  | badPayload
  deriving DecidableEq, Repr

/-- The text of a fault of written data. -/
def DataFault.message : DataFault → String
  | namesDiffer pattern => s!"parameter names of route '{pattern}' do not match its segments"
  | repeatedParameter pattern name position =>
    s!"route '{pattern}' declares parameter '{name}' twice (position {position})"
  | expressionDiffers pattern =>
    s!"matching expression of route '{pattern}' does not match its segments"
  | repeatedRoute name => s!"route '{name}' appears twice"
  | badEncoding => "Invalid session encoding: *"
  | badPayload => "Invalid session payload: *"

/-- Everything that can go wrong. -/
inductive Fault where
  | pattern (pattern : String) (reason : PatternFault)
  /-- A path cannot be built for lack of a parameter. -/
  | missingParameter (pattern parameter : String)
  /-- A route is not registered, for the given cause. -/
  | registration (name : String) (cause : Fault)
  | routeNotFound (name : String)
  | config (reason : ConfigFault)
  | data (reason : DataFault)
  /-- The file system refuses an operation. -/
  | files
  deriving DecidableEq, Repr

namespace Fault

/-- The text of a fault. -/
def message : Fault → String
  | .pattern text reason => s!"Pattern syntax error in '{text}': {reason.message}"
  | missingParameter text name => s!"Missing required parameter '{name}' for route '{text}'"
  | registration name cause => s!"Failed to register route '{name}': {cause.message}"
  | routeNotFound name => s!"Route not found: {name}"
  | config reason => s!"Configuration error: {reason.message}"
  | data reason => s!"Serialization error: {reason.message}"
  | files => "IO error: *"

/-- Is this a fault of a pattern, or a registration that failed for one? -/
def isPatternFault : Fault → Bool
  | .pattern _ _ => true
  | registration _ cause => cause.isPatternFault
  | _ => false

/-- The parameter that is missing, if that is the fault. -/
def missing? : Fault → Option String
  | missingParameter _ name => some name
  | _ => none

end Fault

end Routing
