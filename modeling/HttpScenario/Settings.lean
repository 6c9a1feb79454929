import HttpScenario.Scenario.Load

namespace HttpScenario

structure RunnerSettings where
  scenariosDirectory : String := "."
  timeoutSeconds : Nat := 10
  defaultContentType : Option String := none
  format : Format := .plain
deriving DecidableEq

structure VerifierSettings where
  heal : Bool := false
  healHeaders : Bool := false
deriving DecidableEq

structure Settings where
  runner : RunnerSettings := {}
  verifier : VerifierSettings := {}
deriving DecidableEq

end HttpScenario
