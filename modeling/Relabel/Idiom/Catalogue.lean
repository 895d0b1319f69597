import Relabel.Idiom.Atob
import Relabel.Idiom.Getter
import Relabel.Idiom.Handler
import Relabel.Idiom.Helper

/-!
# The catalogue of idioms

All idioms, with the kind of node each looks at and its priority among the idioms for that kind: the
lower number is tried first.
-/

namespace Relabel

inductive Idiom where
  | polyfillAccessor | guardedInvoker | wrapper | stringGuard | catchParameter | chartDecode
  | standardDecode | performanceNow | simpleGetter | handlerParameters | handlerMap
deriving Repr, DecidableEq, Inhabited

namespace Idiom

def all : List Idiom :=
  [polyfillAccessor, guardedInvoker, wrapper, stringGuard, catchParameter, chartDecode,
    standardDecode, performanceNow, simpleGetter, handlerParameters, handlerMap]

/-- The name by which an idiom is chosen. -/
def title : Idiom → String
  | polyfillAccessor => "AtobPolyfillAccessor"
  | guardedInvoker => "GuardedAtobInvoker"
  | wrapper => "AtobWrapper"
  | stringGuard => "StringGuardWrapper"
  | catchParameter => "CatchParameter"
  | chartDecode => "ChartDecodeHelper"
  | standardDecode => "StandardDecodeHelper"
  | performanceNow => "PerformanceNowHelper"
  | simpleGetter => "SimpleGetter"
  | handlerParameters => "HandlerParameterNames"
  | handlerMap => "ResponseHandlerMap"

def ofTitle? (title : String) : Option Idiom :=
  all.find? (fun idiom ↦ idiom.title == title)

/-- The name by which an idiom is reported. -/
def label : Idiom → String
  | polyfillAccessor => "atob_polyfill_accessor"
  | guardedInvoker => "guarded_atob_invoker"
  | wrapper => "atob_wrapper"
  | stringGuard => "string_guard_wrapper"
  | catchParameter => "catch_parameter"
  | chartDecode => "chart_decode_helper"
  | standardDecode => "standard_decode_helper"
  | performanceNow => "performance_now_helper"
  | simpleGetter => "simple_getter"
  | handlerParameters => "handler_parameter_names"
  | handlerMap => "response_handler_map"

def description : Idiom → String
  | polyfillAccessor => "Variable whose initializer returns the global atob"
  | guardedInvoker => "IIFE returning window.atob from a try block"
  | wrapper => "Feature-detection wrapper choosing native atob or a polyfill"
  | stringGuard => "Wrapper guarded by a string == unary comparison"
  | catchParameter => "Catch clause parameter"
  | chartDecode => "Decoder indexing a 7-character key string"
  | standardDecode => "Decoder built on atob() and charCodeAt(0)"
  | performanceNow => "High-resolution timer with a Date.now() fallback"
  | simpleGetter => "Function whose body is exactly return <identifier>"
  | handlerParameters => "Positional parameter names for known response handlers"
  | handlerMap => "Object literal mapping response keys (incl. 'bake') to handlers"

/-- The kind of node an idiom looks at. -/
def kind : Idiom → Kind
  | polyfillAccessor | handlerMap => .variableDeclarator
  | guardedInvoker => .variableDeclaration
  | catchParameter => .catchClause
  | wrapper | stringGuard | chartDecode | standardDecode | performanceNow | simpleGetter
  | handlerParameters => .functionDeclaration

def priority : Idiom → Nat
  | polyfillAccessor => 20
  | guardedInvoker => 20
  | wrapper => 10
  | stringGuard => 20
  | catchParameter => 10
  | chartDecode => 30
  | standardDecode => 40
  | performanceNow => 50
  | simpleGetter => 90
  | handlerParameters => 10
  | handlerMap => 10

/-- The technical form of an idiom's entry in the catalogue. -/
def signature (idiom : Idiom) : String :=
  "<" ++ idiom.title ++ " " ++ idiom.kind.tag ++ ":" ++ toString idiom.priority ++ ">"

/-- What an idiom finds on a node of its kind. -/
def recognise : Idiom → Recognition.Context → Node → Recognition.Answer
  | polyfillAccessor => Recognition.polyfillAccessor
  | guardedInvoker => Recognition.guardedInvoker
  | wrapper => Recognition.wrapper
  | stringGuard => Recognition.stringGuard
  | catchParameter => Recognition.catchParameter
  | chartDecode => Recognition.chartDecode
  | standardDecode => Recognition.standardDecode
  | performanceNow => Recognition.performanceNow
  | simpleGetter => Recognition.simpleGetter
  | handlerParameters => Recognition.handlerParameters
  | handlerMap => Recognition.handlerMap

end Idiom

end Relabel
