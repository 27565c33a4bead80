import GrowthScan.Path
import GrowthScan.Text.Basic

/-!
# Source languages

The language labels a snippet, decides which files a walk picks up and which sample is shown. It
never changes a verdict.
-/

namespace GrowthScan

/-- A language that snippets are written in. -/
inductive Language where
  | java
  | python
  | c
  | cpp
  deriving DecidableEq, Inhabited

namespace Language

def all : List Language := [java, python, c, cpp]

/-- The name that settings and reports use. -/
def id : Language → String
  | java => "java"
  | python => "python"
  | c => "c"
  | cpp => "cpp"

/-- The name shown to readers. -/
def displayName : Language → String
  | java => "Java"
  | python => "Python"
  | c => "C"
  | cpp => "C++"

def description : Language → String
  | java => "Object-oriented programming"
  | python => "High-level programming"
  | c => "System programming"
  | cpp => "Systems & applications"

/-- The usual file extension, without the dot. -/
def extension : Language → String
  | java => "java"
  | python => "py"
  | c => "c"
  | cpp => "cpp"

/-- The extensions of the language's files, in lower case. -/
def extensions : Language → List String
  | java => ["java"]
  | python => ["py"]
  | c => ["c", "h"]
  | cpp => ["cpp", "cc", "cxx", "hpp", "hh"]

/-- The other names that a language goes by. -/
def aliases : Language → List String
  | java => []
  | python => ["py"]
  | c => []
  | cpp => ["c++"]

/-- The language of files with this extension, in any ASCII case. -/
def ofExtension? (extension : String) : Option Language :=
  all.find? fun l => l.extensions.any fun e => e.toList == extension.toList.map Char.toLower

/-- The language of the file that a path names. -/
def ofPath? (path : String) : Option Language := (Path.extension? path).bind ofExtension?

/-- The language with this identifier. -/
def ofId? (id : String) : Option Language := all.find? fun l => l.id == id

/-- The language called by this name, in any ASCII case and between blanks. -/
def ofName? (name : String) : Option Language :=
  let wanted := (Text.trim name.toList).map Char.toLower
  all.find? fun l => (l.id :: l.aliases).any fun n => n.toList == wanted

/-- The lines of a snippet typical of the language. -/
def sampleLines : Language → List String
  | java =>
    ["public class Example \x7b",
     "    public static void bubbleSort(int[] arr) \x7b",
     "        int n = arr.length;",
     "        for (int i = 0; i < n-1; i++) \x7b",
     "            for (int j = 0; j < n-i-1; j++) \x7b",
     "                if (arr[j] > arr[j+1]) \x7b",
     "                    int temp = arr[j];",
     "                    arr[j] = arr[j+1];",
     "                    arr[j+1] = temp;",
     "                \x7d",
     "            \x7d",
     "        \x7d",
     "    \x7d",
     "\x7d"]
  | python =>
    ["def binary_search(arr, target):",
     "    left, right = 0, len(arr) - 1",
     "",
     "    while left <= right:",
     "        mid = (left + right) // 2",
     "        if arr[mid] == target:",
     "            return mid",
     "        elif arr[mid] < target:",
     "            left = mid + 1",
     "        else:",
     "            right = mid - 1",
     "",
     "    return -1"]
  | c =>
    ["#include <stdio.h>",
     "",
     "void quickSort(int arr[], int low, int high) \x7b",
     "    if (low < high) \x7b",
     "        int pi = partition(arr, low, high);",
     "        quickSort(arr, low, pi - 1);",
     "        quickSort(arr, pi + 1, high);",
     "    \x7d",
     "\x7d"]
  | cpp =>
    ["#include <vector>",
     "#include <algorithm>",
     "",
     "class Solution \x7b",
     "public:",
     "    int fibonacci(int n) \x7b",
     "        if (n <= 1) return n;",
     "        return fibonacci(n-1) + fibonacci(n-2);",
     "    \x7d",
     "\x7d;"]

/-- A snippet typical of the language. -/
def sample (l : Language) : String := "\n".intercalate l.sampleLines

end Language

end GrowthScan
