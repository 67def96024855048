/-! # The notice of a generated file

Every shipped stencil begins with the same notice, in which only the year differs.
-/

namespace LayerStencil.Target

/-- The notice at the start of a generated file. -/
def notice (year : String) : List String := [
  "\n",
  "/*\n",
  " * (C) COPYRIGHT ", year, " ARM Limited\n",
  " * ALL RIGHTS RESERVED\n",
  " *\n",
  " * Licensed under the Apache License, Version 2.0 (the \"License\");\n",
  " * you may not use this file except in compliance with the License.\n",
  " * You may obtain a copy of the License at\n",
  " *\n",
  " *     http://www.apache.org/licenses/LICENSE-2.0\n",
  " *\n",
  " * Unless required by applicable law or agreed to in writing, software\n",
  " * distributed under the License is distributed on an \"AS IS\" BASIS,\n",
  " * WITHOUT WARRANTIES OR CONDITIONS OF ANY KIND, either express or implied.\n",
  " * See the License for the specific language governing permissions and\n",
  " * limitations under the License.\n",
  " */\n"]

end LayerStencil.Target
