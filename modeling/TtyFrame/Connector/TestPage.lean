import TtyFrame.Connector.Echo
import TtyFrame.Text.Bytes

/-!
# The colour test page

A page that shows attributes, colours, wide characters and box drawing, and then enough
lines to fill the history.
-/

set_option autoImplicit false

namespace TtyFrame.TestPage

open Text

def rendered (rendition text : String) : String :=
  "\x1b[" ++ rendition ++ "m" ++ text ++ "\x1b[0m"

def onIndex (index : Nat) (text : String) : String := rendered ("48;5;" ++ numeral index) text

def attributes : String :=
  rendered "1" "Bold" ++ "  " ++ rendered "3" "Italic" ++ "  " ++
    rendered "4" "Underline" ++ "  " ++ rendered "7" "Inverse" ++ "\r\n\r\n"

def baseColors : String :=
  "16 colors (bg):\r\n" ++ String.join ((List.range 16).map (onIndex · "  ")) ++ "\r\n\r\n"

def cubeColors : String :=
  let cell rank := onIndex (16 + rank) " " ++ if (rank + 1) % 64 = 0 then "\r\n" else ""
  "256 colors (bg, 16-231):\r\n" ++ String.join ((List.range 216).map cell) ++ "\r\n\r\n"

def trueColors : String :=
  "True color:\r\n" ++ rendered "48;2;255;0;0" "  " ++ " " ++
    rendered "48;2;0;255;0" "  " ++ " " ++ rendered "48;2;0;0;255" "  " ++ " " ++
    rendered "38;2;255;165;0" "Orange" ++ "\r\n\r\n"

def wideText : String :=
  "CJK double-width:\r\n你好世界 Hello\r\n中文混合English测试\r\n├──目录1\r\n" ++
    "│  ├──文件.txt\r\n│  └──子目录\r\n└──目录2\r\n\r\n"

def numberedLines : String :=
  "Scrollback (swipe/drag):\r\n" ++
    String.join ((List.range 80).map fun rank => "Line " ++ numeral (rank + 1) ++ "\r\n")

def text : String :=
  "\x1b[2J\x1b[Htermbridge ANSI render test\r\n\r\n" ++ attributes ++ baseColors ++
    cubeColors ++ trueColors ++ wideText ++ numberedLines ++
    "\r\nType here. Arrow keys / Esc / Tab / Ctrl+<key> should work.\r\n"

def connector : Echo := .withOutput text

end TtyFrame.TestPage
