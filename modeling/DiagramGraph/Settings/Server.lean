import DiagramGraph.Settings.Address

/-!
# Settings of the service

The service is set up by variables of its surroundings. A variable that is not
set has a default; one that is set counts even if it is empty.
-/

namespace DiagramGraph.Settings

/-- How the service is set up. -/
structure Server where
  bind : SocketAddress
  shapesPath : String
  name : String
  deriving DecidableEq, Repr

/-- Why the service cannot be set up. -/
inductive Invalid where
  | bindAddress
  deriving DecidableEq, Repr

/-- How the reason is reported. -/
def Invalid.message : Invalid → String
  | .bindAddress => "PUML_LD_BIND must be a valid socket address (e.g. 0.0.0.0:4567)"

/-- The address that the service listens on by default. -/
def defaultBind : String :=
  "0.0.0.0:4567"

/-- The settings that variables make, each looked up by its name. -/
def Server.ofVariables (lookup : String → Option String) : Except Invalid Server :=
  match SocketAddress.ofText? ((lookup "PUML_LD_BIND").getD defaultBind) with
  | some bind =>
      .ok
        { bind
          shapesPath := (lookup "PUML_LD_SHAPES_DIR").getD "shapes"
          name := (lookup "PUML_LD_NAME").getD "puml-ld" }
  | none => .error .bindAddress

end DiagramGraph.Settings
