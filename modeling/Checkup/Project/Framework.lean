/-!
# Frameworks

The React frameworks that a check-up tells apart, each recognised by the package that brings it in.
The packages are tried in a fixed order, the more specific ones first.
-/

namespace Checkup

/-- A React framework; a name outside the list is kept as it is. -/
inductive Framework
  | nextjs
  | vite
  | createReactApp
  | remix
  | gatsby
  | expo
  | reactNative
  | unknown
  | other (name : String)
  deriving DecidableEq, Repr, Inhabited

namespace Framework

/-- The frameworks of the list, in the order in which their packages are tried. -/
def listed : List Framework :=
  [nextjs, vite, createReactApp, remix, gatsby, expo, reactNative, unknown]

def name : Framework → String
  | nextjs => "nextjs"
  | vite => "vite"
  | createReactApp => "cra"
  | remix => "remix"
  | gatsby => "gatsby"
  | expo => "expo"
  | reactNative => "react-native"
  | unknown => "unknown"
  | other name => name

def ofName (name : String) : Framework :=
  (listed.find? (·.name == name)).getD (other name)

def displayName : Framework → String
  | nextjs => "Next.js"
  | vite => "Vite"
  | createReactApp => "Create React App"
  | remix => "Remix"
  | gatsby => "Gatsby"
  | expo => "Expo"
  | reactNative => "React Native"
  | unknown | other _ => "React"

def package? : Framework → Option String
  | nextjs => some "next"
  | vite => some "vite"
  | createReactApp => some "react-scripts"
  | remix => some "@remix-run/react"
  | gatsby => some "gatsby"
  | expo => some "expo"
  | reactNative => some "react-native"
  | unknown | other _ => none

def isNative : Framework → Bool
  | expo | reactNative => true
  | _ => false

theorem name_ofName (name : String) : (ofName name).name = name := by
  unfold ofName
  cases hfound : listed.find? (·.name == name) with
  | none => rfl
  | some framework => simpa using List.find?_some hfound

end Framework

end Checkup
