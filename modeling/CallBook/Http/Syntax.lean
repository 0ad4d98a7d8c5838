/-!
# The words of HTTP

Which methods, header names and header values can be sent, and what status numbers are called.
-/

namespace CallBook.Http

/-- A character of a method. -/
def isMethodChar (c : Char) : Bool :=
  c.isAlphanum || ['!', '*', '+', '-', '.', '^', '_', '\x60', '|', '~'].contains c

/-- Can this be a method? -/
def isMethod (s : String) : Bool := s ≠ "" && s.toList.all isMethodChar

/-- A character of a header name. -/
def isNameChar (c : Char) : Bool :=
  isMethodChar c || ['#', '$', '%', '&', '\x27'].contains c

/-- Can this be a header name? -/
def isHeaderName (s : String) : Bool := s ≠ "" && s.toList.all isNameChar

/-- A character of a header value: a tab, or no control character. -/
def isValueChar (c : Char) : Bool := c = '\t' || (' ' ≤ c && c ≠ '\x7f')

/-- Can this be a header value? -/
def isHeaderValue (s : String) : Bool := s.toList.all isValueChar

/-- A name in small letters, for ASCII letters only. -/
def lowerCase (s : String) : String := String.ofList (s.toList.map Char.toLower)

/-- A blank at the end of a header value. -/
def isPadding (c : Char) : Bool := c = ' ' || c = '\t'

/-- A header value as it is received, without the blanks at both ends. -/
def unpadded (s : String) : String :=
  String.ofList (((s.toList.dropWhile isPadding).reverse.dropWhile isPadding).reverse)

/-- Is the text made of visible ASCII characters, blanks and tabs? -/
def isPlain (s : String) : Bool := s.toList.all fun c => c = '\t' || (' ' ≤ c && c ≤ '~')

/-- The standard phrases for status numbers. -/
def phrases : List (Nat × String) :=
  [(100, "Continue"), (101, "Switching Protocols"), (102, "Processing"), (200, "OK"),
   (201, "Created"), (202, "Accepted"), (203, "Non Authoritative Information"),
   (204, "No Content"), (205, "Reset Content"), (206, "Partial Content"),
   (207, "Multi-Status"), (208, "Already Reported"), (226, "IM Used"),
   (300, "Multiple Choices"), (301, "Moved Permanently"), (302, "Found"), (303, "See Other"),
   (304, "Not Modified"), (305, "Use Proxy"), (307, "Temporary Redirect"),
   (308, "Permanent Redirect"), (400, "Bad Request"), (401, "Unauthorized"),
   (402, "Payment Required"), (403, "Forbidden"), (404, "Not Found"),
   (405, "Method Not Allowed"), (406, "Not Acceptable"),
   (407, "Proxy Authentication Required"), (408, "Request Timeout"), (409, "Conflict"),
   (410, "Gone"), (411, "Length Required"), (412, "Precondition Failed"),
   (413, "Payload Too Large"), (414, "URI Too Long"), (415, "Unsupported Media Type"),
   (416, "Range Not Satisfiable"), (417, "Expectation Failed"), (418, "I'm a teapot"),
   (421, "Misdirected Request"), (422, "Unprocessable Entity"), (423, "Locked"),
   (424, "Failed Dependency"), (426, "Upgrade Required"), (428, "Precondition Required"),
   (429, "Too Many Requests"), (431, "Request Header Fields Too Large"),
   (451, "Unavailable For Legal Reasons"), (500, "Internal Server Error"),
   (501, "Not Implemented"), (502, "Bad Gateway"), (503, "Service Unavailable"),
   (504, "Gateway Timeout"), (505, "HTTP Version Not Supported"),
   (506, "Variant Also Negotiates"), (507, "Insufficient Storage"), (508, "Loop Detected"),
   (510, "Not Extended"), (511, "Network Authentication Required")]

/-- What a status is called. -/
def phrase (status : Nat) : String := (phrases.lookup status).getD "Unknown"

end CallBook.Http
