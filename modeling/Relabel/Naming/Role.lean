/-!
# Roles

What a recognised part of a program can be, with the descriptor from which its canonical name is
made.
-/

namespace Relabel

inductive Role where
  | atobGetter | atobCall | atobWrapper | atobPolyfill | standardDecode | chartDecode
  | performanceNow | responseHandlers | catchParameter
deriving Repr, DecidableEq, Inhabited

namespace Role

def all : List Role :=
  [atobGetter, atobCall, atobWrapper, atobPolyfill, standardDecode, chartDecode,
    performanceNow, responseHandlers, catchParameter]

/-- The key under which a role is configured and reported. -/
def key : Role → String
  | atobGetter => "atob_getter"
  | atobCall => "atob_call"
  | atobWrapper => "atob_wrapper"
  | atobPolyfill => "atob_poly"
  | standardDecode => "standard_decode"
  | chartDecode => "chart_decode"
  | performanceNow => "performance_now"
  | responseHandlers => "response_handlers"
  | catchParameter => "catch_param"

def ofKey? (key : String) : Option Role :=
  all.find? (fun role ↦ role.key == key)

def defaultDescriptor : Role → String
  | atobGetter => "atobGetter"
  | atobCall => "atobCall"
  | atobWrapper => "atobWrapper"
  | atobPolyfill => "atobPolyfill"
  | standardDecode => "standardDecode"
  | chartDecode => "chartDecode"
  | performanceNow => "performanceNow"
  | responseHandlers => "responseHandlers"
  | catchParameter => "err"

/-- Whether the leading text of generated names is put before the descriptor. -/
def hasLead : Role → Bool
  | catchParameter => false
  | _ => true

end Role

/-- A descriptor for every role. -/
abbrev Descriptors := Role → String

end Relabel
