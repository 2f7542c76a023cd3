/-!
# Page transitions

`ui::PageTransition` is a 32-bit value: a core type in the low byte and
qualifier flags in the high bytes (`ui/base/page_transition_types.h`, which the
repository imports). Only the values its navigation and tab code names are
listed.
-/

namespace ChromiumIos

abbrev PageTransition := UInt32

namespace PageTransition

def link : PageTransition := 0
def typed : PageTransition := 1
def formSubmit : PageTransition := 7
def reload : PageTransition := 8
def coreMask : PageTransition := 0xFF
def forwardBack : PageTransition := 0x01000000
def clientRedirect : PageTransition := 0x40000000
def serverRedirect : PageTransition := 0x80000000
def isRedirectMask : PageTransition := 0xC0000000

/-- `PageTransitionCoreTypeIs`. -/
def coreTypeIs (lhs rhs : PageTransition) : Bool := lhs &&& coreMask == rhs

/-- `PageTransitionIsRedirect`; the repository also spells it as a test of
`PAGE_TRANSITION_IS_REDIRECT_MASK`. -/
def isRedirect (transition : PageTransition) : Bool := transition &&& isRedirectMask != 0

end PageTransition

end ChromiumIos
