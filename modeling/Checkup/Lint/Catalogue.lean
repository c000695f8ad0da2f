import Checkup.Diagnostic

/-!
# The rule catalogue

The rules of the check-up's own lint plugin: how grave each is, what it is about, and what helps.
Some hold for every project, some only where the framework makes them meaningful.
-/

namespace Checkup.Lint

inductive Level
  | warn
  | error
  deriving DecidableEq, Repr

def Level.word : Level → String
  | warn => "warn"
  | error => "error"

structure Rule where
  name : String
  level : Level
  category : Category
  help : String
  deriving Repr

namespace Catalogue

def general : List Rule :=
  [⟨"no-derived-state-effect", .warn, .stateAndEffects,
      "For derived state, compute inline: `const x = fn(dep)`. For state resets on prop " ++
        "change, use a key prop: `<Component key=\x7bprop\x7d />`"⟩,
    ⟨"no-fetch-in-effect", .warn, .stateAndEffects,
      "Use `useQuery()` from @tanstack/react-query, `useSWR()`, or fetch in a Server " ++
        "Component instead"⟩,
    ⟨"no-cascading-set-state", .warn, .stateAndEffects,
      "Combine into useReducer: `const [state, dispatch] = useReducer(reducer, initialState)`"⟩,
    ⟨"no-effect-event-handler", .warn, .stateAndEffects,
      "Move the conditional logic into onClick, onChange, or onSubmit handlers directly"⟩,
    ⟨"no-derived-useState", .warn, .stateAndEffects,
      "Remove useState and compute the value inline: `const value = transform(propName)`"⟩,
    ⟨"prefer-useReducer", .warn, .stateAndEffects,
      "Group related state: `const [state, dispatch] = useReducer(reducer, \x7b field1, " ++
        "field2, ... \x7d)`"⟩,
    ⟨"rerender-lazy-state-init", .warn, .performance,
      "Wrap in an arrow function so it only runs once: `useState(() => expensiveComputation())`"⟩,
    ⟨"rerender-functional-setstate", .warn, .performance,
      "Use the callback form: `setState(prev => prev + 1)` to always read the latest value"⟩,
    ⟨"rerender-dependencies", .warn, .stateAndEffects,
      "Extract to a useMemo, useRef, or module-level constant so the reference is stable"⟩,
    ⟨"no-generic-handler-names", .warn, .architecture,
      "Rename to describe the action: e.g. `handleSubmit` → `saveUserProfile`, `handleClick` " ++
        "→ `toggleSidebar`"⟩,
    ⟨"no-giant-component", .warn, .architecture,
      "Extract logical sections into focused components: `<UserHeader />`, `<UserActions />`, " ++
        "etc."⟩,
    ⟨"no-render-in-render", .warn, .architecture,
      "Extract to a named component: `const ListItem = (\x7b item \x7d) => " ++
        "<div>\x7bitem.name\x7d</div>`"⟩,
    ⟨"no-nested-component-definition", .error, .correctness,
      "Move to a separate file or to module scope above the parent component"⟩,
    ⟨"no-usememo-simple-expression", .warn, .performance,
      "Remove useMemo. Property access, math, and ternaries are already cheap without memoization"⟩,
    ⟨"no-layout-property-animation", .warn, .performance,
      "Use `transform: translateX()` or `scale()` instead. They run on the compositor and " ++
        "skip layout/paint"⟩,
    ⟨"rerender-memo-with-default-value", .warn, .performance,
      "Move to module scope: `const EMPTY_ITEMS: Item[] = []` then use as the default value"⟩,
    ⟨"rendering-animate-svg-wrapper", .warn, .performance,
      "Wrap the SVG: `<motion.div animate=\x7b...\x7d><svg>...</svg></motion.div>`"⟩,
    ⟨"rendering-usetransition-loading", .warn, .performance,
      "Replace with `const [isPending, startTransition] = useTransition()` to avoid a " ++
        "re-render for the loading state"⟩,
    ⟨"rendering-hydration-no-flicker", .warn, .performance,
      "Use `useSyncExternalStore(subscribe, getSnapshot, getServerSnapshot)` or add " ++
        "`suppressHydrationWarning` to the element"⟩,
    ⟨"no-transition-all", .warn, .performance,
      "List specific properties: `transition: \"opacity 200ms, transform 200ms\"`, or in " ++
        "Tailwind use `transition-colors`, `transition-opacity`, or `transition-transform`"⟩,
    ⟨"no-global-css-variable-animation", .warn, .performance,
      "Set the variable on the nearest element instead of a parent, or use `@property` with " ++
        "`inherits: false` to prevent cascade. Better yet, use targeted " ++
        "`element.style.transform` updates"⟩,
    ⟨"no-large-animated-blur", .warn, .performance,
      "Keep blur radius under 10px, or apply blur to a smaller element. Large blurs multiply " ++
        "GPU memory usage with layer size"⟩,
    ⟨"no-scale-from-zero", .warn, .performance,
      "Use `initial=\x7b\x7b scale: 0.95, opacity: 0 \x7d\x7d`. Elements should deflate like " ++
        "a balloon, not vanish into a point"⟩,
    ⟨"no-permanent-will-change", .warn, .performance,
      "Add will-change on animation start (`onMouseEnter`) and remove on end " ++
        "(`onAnimationEnd`). Permanent promotion wastes GPU memory and can degrade performance"⟩,
    ⟨"no-secrets-in-client-code", .error, .security,
      "Move to server-side `process.env.SECRET_NAME`. Only `NEXT_PUBLIC_*` vars are safe for " ++
        "the client (and should not contain secrets)"⟩,
    ⟨"no-barrel-import", .warn, .bundleSize,
      "Import from the direct path: `import \x7b Button \x7d from './components/Button'` " ++
        "instead of `./components`"⟩,
    ⟨"no-full-lodash-import", .warn, .bundleSize,
      "Import the specific function: `import debounce from 'lodash/debounce'` (saves ~70kb)"⟩,
    ⟨"no-moment", .warn, .bundleSize,
      "Replace with `import \x7b format \x7d from 'date-fns'` (tree-shakeable) or `import " ++
        "dayjs from 'dayjs'` (2kb)"⟩,
    ⟨"prefer-dynamic-import", .warn, .bundleSize,
      "Use `const Component = dynamic(() => import('library'), \x7b ssr: false \x7d)` from " ++
        "next/dynamic or React.lazy()"⟩,
    ⟨"use-lazy-motion", .warn, .bundleSize,
      "Use `import \x7b LazyMotion, m \x7d from \"framer-motion\"` with `domAnimation` " ++
        "features (saves ~30kb)"⟩,
    ⟨"no-undeferred-third-party", .warn, .bundleSize,
      "Use `next/script` with `strategy=\"lazyOnload\"` or add the `defer` attribute"⟩,
    ⟨"no-array-index-as-key", .warn, .correctness,
      "Use a stable unique identifier: `key=\x7bitem.id\x7d` or `key=\x7bitem.slug\x7d`. " ++
        "Index keys break on reorder/filter"⟩,
    ⟨"rendering-conditional-render", .error, .correctness,
      "Change to `\x7bitems.length > 0 && <List />\x7d` or use a ternary: `\x7bitems.length ? " ++
        "<List /> : null\x7d`"⟩,
    ⟨"no-prevent-default", .warn, .correctness,
      "Use `<form action=\x7bserverAction\x7d>` (works without JS) or `<button>` instead of " ++
        "`<a>` with preventDefault"⟩,
    ⟨"client-passive-event-listeners", .warn, .performance,
      "Add `\x7b passive: true \x7d` as the third argument: `addEventListener('scroll', " ++
        "handler, \x7b passive: true \x7d)`"⟩,
    ⟨"async-parallel", .warn, .performance,
      "Use `const [a, b] = await Promise.all([fetchA(), fetchB()])` to run independent " ++
        "operations concurrently"⟩]

def nextjs : List Rule :=
  [⟨"nextjs-no-img-element", .warn, .nextjs,
      "`import Image from 'next/image'` provides automatic WebP/AVIF, lazy loading, and " ++
        "responsive srcset"⟩,
    ⟨"nextjs-async-client-component", .error, .nextjs,
      "Fetch data in a parent Server Component and pass it as props, or use useQuery/useSWR " ++
        "in the client component"⟩,
    ⟨"nextjs-no-a-element", .warn, .nextjs,
      "`import Link from 'next/link'` enables client-side navigation, prefetching, and " ++
        "preserves scroll position"⟩,
    ⟨"nextjs-no-use-search-params-without-suspense", .warn, .nextjs,
      "Wrap the component using useSearchParams: `<Suspense fallback=\x7b<Skeleton " ++
        "/>\x7d><SearchComponent /></Suspense>`"⟩,
    ⟨"nextjs-no-client-fetch-for-server-data", .warn, .nextjs,
      "Remove 'use client' and fetch directly in the Server Component. No API round-trip, " ++
        "secrets stay on server"⟩,
    ⟨"nextjs-missing-metadata", .warn, .nextjs,
      "Add `export const metadata = \x7b title: '...', description: '...' \x7d` or `export " ++
        "async function generateMetadata()`"⟩,
    ⟨"nextjs-no-client-side-redirect", .warn, .nextjs,
      "Use `redirect('/path')` from 'next/navigation' in a Server Component, or handle in " ++
        "middleware"⟩,
    ⟨"nextjs-no-redirect-in-try-catch", .error, .nextjs,
      "Move the redirect/notFound call outside the try block, or add " ++
        "`unstable_rethrow(error)` in the catch"⟩,
    ⟨"nextjs-image-missing-sizes", .warn, .nextjs,
      "Add sizes for responsive behavior: `sizes=\"(max-width: 768px) 100vw, 50vw\"` matching " ++
        "your layout breakpoints"⟩,
    ⟨"nextjs-no-native-script", .warn, .nextjs,
      "`import Script from \"next/script\"` and use `strategy=\"afterInteractive\"` for " ++
        "analytics or `\"lazyOnload\"` for widgets"⟩,
    ⟨"nextjs-inline-script-missing-id", .warn, .nextjs,
      "Add `id=\"descriptive-name\"` so Next.js can track, deduplicate, and re-execute the " ++
        "script correctly"⟩,
    ⟨"nextjs-no-font-link", .warn, .nextjs,
      "`import \x7b Inter \x7d from \"next/font/google\"` is self-hosted with zero layout " ++
        "shift and no render-blocking requests"⟩,
    ⟨"nextjs-no-css-link", .warn, .nextjs,
      "Import CSS directly: `import './styles.css'` or use CSS Modules: `import styles from " ++
        "'./Button.module.css'`"⟩,
    ⟨"nextjs-no-polyfill-script", .warn, .nextjs,
      "Next.js includes polyfills for fetch, Promise, Object.assign, Array.from, and 50+ " ++
        "others automatically"⟩,
    ⟨"nextjs-no-head-import", .warn, .nextjs,
      "Use the Metadata API instead: `export const metadata = \x7b title: '...' \x7d` or " ++
        "`export async function generateMetadata()`"⟩,
    ⟨"nextjs-no-side-effect-in-get-handler", .error, .security,
      "Move the side effect to a POST handler and use a <form> or fetch with method POST. GET " ++
        "requests can be triggered by prefetching and are vulnerable to CSRF"⟩,
    ⟨"server-auth-actions", .error, .server,
      "Add `const session = await auth()` at the top and throw/redirect if unauthorized " ++
        "before any data access"⟩,
    ⟨"server-after-nonblocking", .warn, .server,
      "`import \x7b after \x7d from 'next/server'` then wrap: `after(() => " ++
        "analytics.track(...))` so the response isn't blocked"⟩]

def nativeViews : List Rule :=
  [⟨"rn-no-raw-text", .error, .reactNative,
      "Wrap text in a `<Text>` component: `<Text>\x7bvalue\x7d</Text>`. Raw strings outside " ++
        "`<Text>` crash on React Native"⟩,
    ⟨"rn-no-deprecated-modules", .warn, .reactNative,
      "Import from the community package instead. Deprecated modules were removed from the " ++
        "react-native core"⟩,
    ⟨"rn-no-legacy-expo-packages", .warn, .reactNative,
      "Migrate to the recommended replacement package. Legacy Expo packages are no longer " ++
        "maintained"⟩,
    ⟨"rn-no-dimensions-get", .warn, .reactNative,
      "Use `const \x7b width, height \x7d = useWindowDimensions()`. It updates reactively on " ++
        "rotation and resize"⟩,
    ⟨"rn-no-inline-flatlist-renderitem", .warn, .reactNative,
      "Extract renderItem to a named function or wrap in useCallback to avoid re-creating on " ++
        "every render"⟩,
    ⟨"rn-no-legacy-shadow-styles", .warn, .reactNative,
      "Use `boxShadow` for cross-platform shadows on the new architecture instead of " ++
        "platform-specific shadow properties"⟩,
    ⟨"rn-prefer-reanimated", .warn, .reactNative,
      "Use `import Animated from 'react-native-reanimated'`. Animations run on the UI thread " ++
        "instead of the JS thread"⟩,
    ⟨"rn-no-single-element-style-array", .warn, .reactNative,
      "Use `style=\x7bvalue\x7d` instead of `style=\x7b[value]\x7d`. Single-element arrays " ++
        "add unnecessary allocation"⟩]

def all : List Rule :=
  general ++ nextjs ++ nativeViews

def find? (name : String) : Option Rule :=
  all.find? (·.name == name)

/-- What helps against a rule of the catalogue; nothing is known of any other rule. -/
def helpFor (name : String) : String :=
  ((find? name).map (·.help)).getD ""

def plugin : String := "react-doctor"

end Catalogue

def pluginCategories : List (String × Category) :=
  [("react", .correctness), ("react-hooks", .correctness), ("react-hooks-js", .reactCompiler),
    ("react-perf", .performance), ("jsx-a11y", .accessibility)]

def Catalogue.entry? (plugin rule : String) : Option Rule :=
  if plugin == Catalogue.plugin then Catalogue.find? rule else none

/-- What a rule is about: what the catalogue says of it, or else its plugin. -/
def categoryOf (plugin rule : String) : Category :=
  match Catalogue.entry? plugin rule with
  | some known => known.category
  | none => (Named.get? plugin pluginCategories).getD .other

end Checkup.Lint
