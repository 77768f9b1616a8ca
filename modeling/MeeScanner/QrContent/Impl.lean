import MeeScanner.FirstMatch
import MeeScanner.Home.Util
import MeeScanner.IgnoreCase

/-!
This module contains `QrContentAnalyzer`, that sorts the raw value of a QR code into kinds by the
scheme it begins with. The raw value is any sequence of UTF-16 units, as a Kotlin string is.
-/

open FirstMatch IgnoreCase

namespace MeeScanner

inductive QrContent where
  | upi (rawValue : Units) (frame : Option Bitmap)
  | url (rawValue : Units) (frame : Option Bitmap)
  | wifi (rawValue : Units) (frame : Option Bitmap)
  | contact (rawValue : Units) (frame : Option Bitmap)
  | email (rawValue : Units) (frame : Option Bitmap)
  | phone (rawValue : Units) (frame : Option Bitmap)
  | sms (rawValue : Units) (frame : Option Bitmap)
  | plainText (rawValue : Units) (frame : Option Bitmap)
  deriving DecidableEq, Repr

namespace QrContent

inductive Kind where
  | upi
  | url
  | wifi
  | contact
  | email
  | phone
  | sms
  | plainText
  deriving DecidableEq, Repr

def kind : QrContent → Kind
  | .upi .. => .upi
  | .url .. => .url
  | .wifi .. => .wifi
  | .contact .. => .contact
  | .email .. => .email
  | .phone .. => .phone
  | .sms .. => .sms
  | .plainText .. => .plainText

def rawValue : QrContent → Units
  | .upi rawValue _ | .url rawValue _ | .wifi rawValue _ | .contact rawValue _ => rawValue
  | .email rawValue _ | .phone rawValue _ | .sms rawValue _ | .plainText rawValue _ => rawValue

def frame : QrContent → Option Bitmap
  | .upi _ frame | .url _ frame | .wifi _ frame | .contact _ frame => frame
  | .email _ frame | .phone _ frame | .sms _ frame | .plainText _ frame => frame

end QrContent

namespace QrContentAnalyzer

def analyze (m : CaseMapping) (rawValue : Units) (frame : Option Bitmap := none) : QrContent :=
  if m.startsWith rawValue (ofAscii "upi://pay") then
    .upi rawValue frame
  else if m.startsWith rawValue (ofAscii "http://")
      || m.startsWith rawValue (ofAscii "https://") then
    .url rawValue frame
  else if m.startsWith rawValue (ofAscii "WIFI:") then
    .wifi rawValue frame
  else if m.startsWith rawValue (ofAscii "BEGIN:VCARD") then
    .contact rawValue frame
  else if m.startsWith rawValue (ofAscii "mailto:") then
    .email rawValue frame
  else if m.startsWith rawValue (ofAscii "tel:") then
    .phone rawValue frame
  else if m.startsWith rawValue (ofAscii "sms:")
      || m.startsWith rawValue (ofAscii "smsto:") then
    .sms rawValue frame
  else
    .plainText rawValue frame

end QrContentAnalyzer

/-!
The branches of `analyze` as a list, to say what another order of them would do.
-/

namespace QrContent.Kind

def schemes : Kind → List Units
  | .upi => [ofAscii "upi://pay"]
  | .url => [ofAscii "http://", ofAscii "https://"]
  | .wifi => [ofAscii "WIFI:"]
  | .contact => [ofAscii "BEGIN:VCARD"]
  | .email => [ofAscii "mailto:"]
  | .phone => [ofAscii "tel:"]
  | .sms => [ofAscii "sms:", ofAscii "smsto:"]
  | .plainText => []

def content : Kind → Units → Option Bitmap → QrContent
  | .upi => .upi
  | .url => .url
  | .wifi => .wifi
  | .contact => .contact
  | .email => .email
  | .phone => .phone
  | .sms => .sms
  | .plainText => .plainText

def branch (m : CaseMapping) (kind : Kind) : Branch (Units × Option Bitmap) QrContent where
  guard := fun (rawValue, _) => kind.schemes.any (m.startsWith rawValue)
  body := fun (rawValue, frame) => kind.content rawValue frame

end QrContent.Kind

namespace QrContentAnalyzer

def branches (m : CaseMapping) : List (Branch (Units × Option Bitmap) QrContent) :=
  [.upi, .url, .wifi, .contact, .email, .phone, .sms].map (QrContent.Kind.branch m)

def otherwise : Units × Option Bitmap → QrContent := fun (rawValue, frame) =>
  .plainText rawValue frame

end QrContentAnalyzer
end MeeScanner
