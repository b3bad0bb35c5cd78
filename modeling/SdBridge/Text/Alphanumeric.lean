import SdBridge.Text.Alphabetic
import SdBridge.Text.Numeric

/-! Letters and numbers. -/
namespace SdBridge.Text

def isAlphanumeric (c : Char) : Bool := isAlphabetic c || isNumeric c

end SdBridge.Text
