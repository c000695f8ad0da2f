import Checkup.Host

/-!
# Runtime settings

The switches that the variables of the environment set for a run: whether it is automated, whether
it may use the network and how, and which programs it is to use.
-/

namespace Checkup

structure RuntimeSettings where
  automated : Bool
  offline : Bool
  proxy : Option String
  node : Option String
  linter : Option String
  deadCode : Option String
  plugin : Option String
  scoreUrl : String
  fetchTimeout : Float
  deriving Repr, Inhabited

namespace RuntimeSettings

def offWords : List String := ["0", "false", "no", "off"]

/-- Whether a variable is switched on: set to anything but nothing or a word for off. -/
def isOn : Option String → Bool
  | none => false
  | some value => value != "" && !offWords.contains (Text.lower (Text.strip value))

def automationVariables : List String :=
  ["CI", "GITHUB_ACTIONS", "GITLAB_CI", "BUILDKITE", "CIRCLECI", "JENKINS_URL", "TF_BUILD",
    "CODEBUILD_BUILD_ID", "REACT_DOCTOR_NON_INTERACTIVE"]

/-- The variables that name a proxy, the first one that is given wins. -/
def proxyVariables : List String :=
  ["HTTPS_PROXY", "https_proxy", "HTTP_PROXY", "http_proxy"]

/-- Where the score service is reached, unless a variable says otherwise. -/
def defaultScoreUrl : String := "https://www.react.doctor/api/estimate-score"

/-- How many seconds the score service has to answer, unless a variable says otherwise. -/
def defaultFetchTimeout : Float := 10.0

def readTimeout : Option String → Except Fault Float
  | none => .ok defaultFetchTimeout
  | some text =>
    match Decimal.readReal? text with
    | some seconds => .ok seconds
    | none => .error (.badValue ("could not convert string to float: " ++ Json.Display.quoted text))

def ofVariables (environment : Variables) : Except Fault RuntimeSettings := do
  let fetchTimeout ← readTimeout (environment.value? "REACT_DOCTOR_FETCH_TIMEOUT")
  return {
    automated := automationVariables.any fun name => isOn (environment.value? name)
    offline := isOn (environment.value? "REACT_DOCTOR_OFFLINE")
    proxy := proxyVariables.findSome? environment.given?
    node := environment.given? "REACT_DOCTOR_NODE"
    linter := environment.given? "REACT_DOCTOR_OXLINT_BIN"
    deadCode := environment.given? "REACT_DOCTOR_KNIP_BIN"
    plugin := environment.given? "REACT_DOCTOR_PLUGIN_PATH"
    scoreUrl := (environment.value? "REACT_DOCTOR_ESTIMATE_SCORE_API_URL").getD defaultScoreUrl
    fetchTimeout }

def ofHost : Run RuntimeSettings := do
  match ofVariables (← get).environment with
  | .ok settings => return settings
  | .error fault => throw fault

end RuntimeSettings

end Checkup
