import Checkup.Git
import Checkup.Project.Dependencies
import Checkup.Diagnostic

/-!
# Reduced motion

A project that moves things on the screen has to respect the wish for less motion. The check asks
git whether any source mentions that wish; where git cannot tell, nothing does.
-/

namespace Checkup.ReducedMotion

def libraries : List String :=
  ["framer-motion", "motion", "react-spring", "@react-spring/web", "react-native-reanimated",
    "gsap", "@formkit/auto-animate", "lottie-react"]

def sections : List String := ["dependencies", "devDependencies"]

def isNeeded (manifest : Manifest) : Bool :=
  sections.any fun name => libraries.any (Dependencies.ofSection manifest name).names

def expression : String := "prefers-reduced-motion|useReducedMotion"

def searched : List String := ["*.ts", "*.tsx", "*.js", "*.jsx", "*.css", "*.scss"]

def finding : Diagnostic where
  file := .text Manifest.fileName
  plugin := "react-doctor"
  rule := "require-reduced-motion"
  severity := .error
  message := "Project uses a motion library but has no prefers-reduced-motion handling " ++
    "— required for accessibility (WCAG 2.3.3)"
  help := .text ("Add `useReducedMotion()` from your animation library, or a " ++
    "`@media (prefers-reduced-motion: reduce)` CSS query")
  line := 0
  column := 0
  category := .accessibility

def check (root : Path) : Run (List Diagnostic) := do
  if !(← Manifest.isIn root) then return []
  if !isNeeded (← Manifest.readIn root) then return []
  if (← Git.contains? root expression searched) == some true then return []
  return [finding]

end Checkup.ReducedMotion
