/-!
# Status codes

The standard phrase of each status code, and the classes that a code can belong to.
-/

namespace Enrollment.Http

/-- The phrases of the codes that have one. -/
def phrases : List (UInt16 × String) :=
  [(100, "Continue"), (101, "Switching Protocols"), (102, "Processing"), (200, "OK"),
    (201, "Created"), (202, "Accepted"), (203, "Non Authoritative Information"),
    (204, "No Content"), (205, "Reset Content"), (206, "Partial Content"), (207, "Multi-Status"),
    (208, "Already Reported"), (226, "IM Used"), (300, "Multiple Choices"),
    (301, "Moved Permanently"), (302, "Found"), (303, "See Other"), (304, "Not Modified"),
    (305, "Use Proxy"), (307, "Temporary Redirect"), (308, "Permanent Redirect"),
    (400, "Bad Request"), (401, "Unauthorized"), (402, "Payment Required"), (403, "Forbidden"),
    (404, "Not Found"), (405, "Method Not Allowed"), (406, "Not Acceptable"),
    (407, "Proxy Authentication Required"), (408, "Request Timeout"), (409, "Conflict"),
    (410, "Gone"), (411, "Length Required"), (412, "Precondition Failed"),
    (413, "Payload Too Large"), (414, "URI Too Long"), (415, "Unsupported Media Type"),
    (416, "Range Not Satisfiable"), (417, "Expectation Failed"), (418, "I'm a teapot"),
    (421, "Misdirected Request"), (422, "Unprocessable Entity"), (423, "Locked"),
    (424, "Failed Dependency"), (425, "Too Early"), (426, "Upgrade Required"),
    (428, "Precondition Required"), (429, "Too Many Requests"),
    (431, "Request Header Fields Too Large"), (451, "Unavailable For Legal Reasons"),
    (500, "Internal Server Error"), (501, "Not Implemented"), (502, "Bad Gateway"),
    (503, "Service Unavailable"), (504, "Gateway Timeout"), (505, "HTTP Version Not Supported"),
    (506, "Variant Also Negotiates"), (507, "Insufficient Storage"), (508, "Loop Detected"),
    (510, "Not Extended"), (511, "Network Authentication Required")]

/-- A code and its phrase. -/
def describeStatus (status : UInt16) : String :=
  toString status ++ " " ++ (phrases.lookup status).getD "<unknown status code>"

def isSuccess (status : UInt16) : Bool :=
  200 ≤ status && status ≤ 299

/-- Whether a code says that the caller is at fault. -/
def isClientError (status : UInt16) : Bool :=
  400 ≤ status && status ≤ 499

/-- Whether a code says that the server is at fault. -/
def isServerError (status : UInt16) : Bool :=
  500 ≤ status && status ≤ 599

/-- Whether a number can be a code at all. -/
def isStatus (status : UInt16) : Bool :=
  100 ≤ status && status ≤ 999

end Enrollment.Http
