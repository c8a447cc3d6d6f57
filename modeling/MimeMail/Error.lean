import MimeMail.Text.Digits

namespace MimeMail

inductive MediaTypeFault where
  | noSlash
  | badType
  | noValue
  | badName
  | openQuote
  deriving DecidableEq

def MediaTypeFault.message : MediaTypeFault → Text
  | noSlash => "missing '/'".toList
  | badType => "invalid type or subtype".toList
  | noValue => "parameter without value".toList
  | badName => "invalid parameter name".toList
  | openQuote => "unterminated quoted string".toList

inductive FileFault where
  | notFound
  | notDirectory
  | isDirectory
  | nameTooLong
  | nulInName
  | notUtf8
  | other (reason : Text)
  deriving DecidableEq

def FileFault.message : FileFault → Text
  | notFound => "No such file or directory (os error 2)".toList
  | notDirectory => "Not a directory (os error 20)".toList
  | isDirectory => "Is a directory (os error 21)".toList
  | nameTooLong => "File name too long (os error 36)".toList
  | nulInName => "file name contained an unexpected NUL byte".toList
  | notUtf8 => "stream did not contain valid UTF-8".toList
  | other reason => reason

inductive MailError where
  | emptyHeader
  | missingHeader (uid : Nat)
  | missingBody
  | invalidMediaType (value : Text) (fault : MediaTypeFault)
  | io (path : Text) (fault : FileFault)
  | fileNotFound (path : Text)
  deriving DecidableEq

def MailError.message : MailError → Text
  | emptyHeader => "Header block is empty".toList
  | missingHeader uid => "No header was provided for message ".toList ++ Digits.ofNat uid
  | missingBody => "Cannot parse mail content: no body was provided".toList
  | invalidMediaType value fault =>
    "Invalid media type '".toList ++ value ++ "': ".toList ++ fault.message
  | io path fault => "I/O error reading '".toList ++ path ++ "': ".toList ++ fault.message
  | fileNotFound path => "Mail file not found: ".toList ++ path

end MimeMail
