/-!
# Choosing a native solver

A build has a list of native solvers.  The setting names one of them, in any
case; without a setting the first one of the build is taken.
-/

namespace MathProgram

/-- The native solvers that exist. -/
inductive Backend where
  | gurobi
  | coinCbc
  deriving DecidableEq, Repr

namespace Backend

/-- The backend with a lower-case name. -/
def ofName? : String → Option Backend
  | "gurobi" => some gurobi
  | "coin_cbc" => some coinCbc
  | "coin-cbc" => some coinCbc
  | "cbc" => some coinCbc
  | _ => none

/-- The name of a backend in messages. -/
def title : Backend → String
  | gurobi => "Gurobi"
  | coinCbc => "Coin CBC"

/-- The build feature that includes a backend. -/
def feature : Backend → String
  | gurobi => "gurobi"
  | coinCbc => "coin_cbc"

end Backend

/-- The backends of this build, which has none. -/
def builtBackends : List Backend :=
  []

/-- Why no backend was chosen. -/
inductive BackendError where
  | noneAvailable
  | notAvailable (requested : Backend)
  | unknown (name : String)
  deriving DecidableEq, Repr

namespace BackendError

/-- The text of a failed choice. -/
def message : BackendError → String
  | noneAvailable =>
    "No solver backend available. Please enable a solver feature (e.g., 'gurobi' or 'coin_cbc')"
  | notAvailable requested =>
    requested.title ++ " solver requested via OPTIM_SOLVER but " ++ requested.feature
      ++ " feature not enabled"
  | unknown name =>
    "Invalid solver '" ++ name ++ "' in OPTIM_SOLVER. Valid options: gurobi, coin_cbc"

end BackendError

/-- The backend that a setting selects among those of the build. -/
def selectBackend
    (available : List Backend)
    (setting : Option String) :
    Except BackendError Backend :=
  match setting with
  | some name =>
    match Backend.ofName? name.toLower with
    | some requested =>
      if requested ∈ available then .ok requested else .error (.notAvailable requested)
    | none => .error (.unknown name)
  | none =>
    match available with
    | first :: _ => .ok first
    | [] => .error .noneAvailable

end MathProgram
