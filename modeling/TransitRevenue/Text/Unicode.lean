/-!
Character properties that text handling needs, from the Unicode 14.0 character database: which
characters print as themselves, which are decimal digits or whitespace, and how letters change
case, including the final form of a capital sigma.

Each property is kept as a compact table of hexadecimal code point ranges (`lo-hi`, or one code
point), comma-separated. A case table entry also carries the shift that moves a code point to its
counterpart (`+d` or `~d` for minus), and `/2` when only every other code point of the range
moves. The tables are decoded once into sorted, disjoint arrays and searched by bisection.
-/

namespace TransitRevenue

namespace Unicode

/-! ## Tables -/

/-- The code points that do not print as themselves: controls, format characters, surrogates,
private use, unassigned code points, and separators other than the ASCII space. -/
def nonPrintableText : List String :=
  ["0-1f,7f-a0,ad,378-379,380-383,38b,38d,3a2,530,557-558,58b-58c,590,5c8-5cf,5eb-5ee",
   "5f5-605,61c,6dd,70e-70f,74b-74c,7b2-7bf,7fb-7fc,82e-82f,83f,85c-85d,85f,86b-86f,88f-897",
   "8e2,984,98d-98e,991-992,9a9,9b1,9b3-9b5,9ba-9bb,9c5-9c6,9c9-9ca,9cf-9d6,9d8-9db,9de",
   "9e4-9e5,9ff-a00,a04,a0b-a0e,a11-a12,a29,a31,a34,a37,a3a-a3b,a3d,a43-a46,a49-a4a,a4e-a50",
   "a52-a58,a5d,a5f-a65,a77-a80,a84,a8e,a92,aa9,ab1,ab4,aba-abb,ac6,aca,ace-acf,ad1-adf",
   "ae4-ae5,af2-af8,b00,b04,b0d-b0e,b11-b12,b29,b31,b34,b3a-b3b,b45-b46,b49-b4a,b4e-b54",
   "b58-b5b,b5e,b64-b65,b78-b81,b84,b8b-b8d,b91,b96-b98,b9b,b9d,ba0-ba2,ba5-ba7,bab-bad",
   "bba-bbd,bc3-bc5,bc9,bce-bcf,bd1-bd6,bd8-be5,bfb-bff,c0d,c11,c29,c3a-c3b,c45,c49,c4e-c54",
   "c57,c5b-c5c,c5e-c5f,c64-c65,c70-c76,c8d,c91,ca9,cb4,cba-cbb,cc5,cc9,cce-cd4,cd7-cdc,cdf",
   "ce4-ce5,cf0,cf3-cff,d0d,d11,d45,d49,d50-d53,d64-d65,d80,d84,d97-d99,db2,dbc,dbe-dbf",
   "dc7-dc9,dcb-dce,dd5,dd7,de0-de5,df0-df1,df5-e00,e3b-e3e,e5c-e80,e83,e85,e8b,ea4,ea6",
   "ebe-ebf,ec5,ec7,ece-ecf,eda-edb,ee0-eff,f48,f6d-f70,f98,fbd,fcd,fdb-fff,10c6,10c8-10cc",
   "10ce-10cf,1249,124e-124f,1257,1259,125e-125f,1289,128e-128f,12b1,12b6-12b7,12bf,12c1",
   "12c6-12c7,12d7,1311,1316-1317,135b-135c,137d-137f,139a-139f,13f6-13f7,13fe-13ff,1680",
   "169d-169f,16f9-16ff,1716-171e,1737-173f,1754-175f,176d,1771,1774-177f,17de-17df",
   "17ea-17ef,17fa-17ff,180e,181a-181f,1879-187f,18ab-18af,18f6-18ff,191f,192c-192f",
   "193c-193f,1941-1943,196e-196f,1975-197f,19ac-19af,19ca-19cf,19db-19dd,1a1c-1a1d,1a5f",
   "1a7d-1a7e,1a8a-1a8f,1a9a-1a9f,1aae-1aaf,1acf-1aff,1b4d-1b4f,1b7f,1bf4-1bfb,1c38-1c3a",
   "1c4a-1c4c,1c89-1c8f,1cbb-1cbc,1cc8-1ccf,1cfb-1cff,1f16-1f17,1f1e-1f1f,1f46-1f47",
   "1f4e-1f4f,1f58,1f5a,1f5c,1f5e,1f7e-1f7f,1fb5,1fc5,1fd4-1fd5,1fdc,1ff0-1ff1,1ff5",
   "1fff-200f,2028-202f,205f-206f,2072-2073,208f,209d-209f,20c1-20cf,20f1-20ff,218c-218f",
   "2427-243f,244b-245f,2b74-2b75,2b96,2cf4-2cf8,2d26,2d28-2d2c,2d2e-2d2f,2d68-2d6e",
   "2d71-2d7e,2d97-2d9f,2da7,2daf,2db7,2dbf,2dc7,2dcf,2dd7,2ddf,2e5e-2e7f,2e9a,2ef4-2eff",
   "2fd6-2fef,2ffc-3000,3040,3097-3098,3100-3104,3130,318f,31e4-31ef,321f,a48d-a48f",
   "a4c7-a4cf,a62c-a63f,a6f8-a6ff,a7cb-a7cf,a7d2,a7d4,a7da-a7f1,a82d-a82f,a83a-a83f",
   "a878-a87f,a8c6-a8cd,a8da-a8df,a954-a95e,a97d-a97f,a9ce,a9da-a9dd,a9ff,aa37-aa3f",
   "aa4e-aa4f,aa5a-aa5b,aac3-aada,aaf7-ab00,ab07-ab08,ab0f-ab10,ab17-ab1f,ab27,ab2f",
   "ab6c-ab6f,abee-abef,abfa-abff,d7a4-d7af,d7c7-d7ca,d7fc-f8ff,fa6e-fa6f,fada-faff",
   "fb07-fb12,fb18-fb1c,fb37,fb3d,fb3f,fb42,fb45,fbc3-fbd2,fd90-fd91,fdc8-fdce,fdd0-fdef",
   "fe1a-fe1f,fe53,fe67,fe6c-fe6f,fe75,fefd-ff00,ffbf-ffc1,ffc8-ffc9,ffd0-ffd1,ffd8-ffd9",
   "ffdd-ffdf,ffe7,ffef-fffb,fffe-ffff,1000c,10027,1003b,1003e,1004e-1004f,1005e-1007f",
   "100fb-100ff,10103-10106,10134-10136,1018f,1019d-1019f,101a1-101cf,101fe-1027f",
   "1029d-1029f,102d1-102df,102fc-102ff,10324-1032c,1034b-1034f,1037b-1037f,1039e",
   "103c4-103c7,103d6-103ff,1049e-1049f,104aa-104af,104d4-104d7,104fc-104ff,10528-1052f",
   "10564-1056e,1057b,1058b,10593,10596,105a2,105b2,105ba,105bd-105ff,10737-1073f",
   "10756-1075f,10768-1077f,10786,107b1,107bb-107ff,10806-10807,10809,10836,10839-1083b",
   "1083d-1083e,10856,1089f-108a6,108b0-108df,108f3,108f6-108fa,1091c-1091e,1093a-1093e",
   "10940-1097f,109b8-109bb,109d0-109d1,10a04,10a07-10a0b,10a14,10a18,10a36-10a37",
   "10a3b-10a3e,10a49-10a4f,10a59-10a5f,10aa0-10abf,10ae7-10aea,10af7-10aff,10b36-10b38",
   "10b56-10b57,10b73-10b77,10b92-10b98,10b9d-10ba8,10bb0-10bff,10c49-10c7f,10cb3-10cbf",
   "10cf3-10cf9,10d28-10d2f,10d3a-10e5f,10e7f,10eaa,10eae-10eaf,10eb2-10eff,10f28-10f2f",
   "10f5a-10f6f,10f8a-10faf,10fcc-10fdf,10ff7-10fff,1104e-11051,11076-1107e,110bd",
   "110c3-110cf,110e9-110ef,110fa-110ff,11135,11148-1114f,11177-1117f,111e0,111f5-111ff",
   "11212,1123f-1127f,11287,11289,1128e,1129e,112aa-112af,112eb-112ef,112fa-112ff,11304",
   "1130d-1130e,11311-11312,11329,11331,11334,1133a,11345-11346,11349-1134a,1134e-1134f",
   "11351-11356,11358-1135c,11364-11365,1136d-1136f,11375-113ff,1145c,11462-1147f",
   "114c8-114cf,114da-1157f,115b6-115b7,115de-115ff,11645-1164f,1165a-1165f,1166d-1167f",
   "116ba-116bf,116ca-116ff,1171b-1171c,1172c-1172f,11747-117ff,1183c-1189f,118f3-118fe",
   "11907-11908,1190a-1190b,11914,11917,11936,11939-1193a,11947-1194f,1195a-1199f",
   "119a8-119a9,119d8-119d9,119e5-119ff,11a48-11a4f,11aa3-11aaf,11af9-11bff,11c09,11c37",
   "11c46-11c4f,11c6d-11c6f,11c90-11c91,11ca8,11cb7-11cff,11d07,11d0a,11d37-11d39,11d3b",
   "11d3e,11d48-11d4f,11d5a-11d5f,11d66,11d69,11d8f,11d92,11d99-11d9f,11daa-11edf",
   "11ef9-11faf,11fb1-11fbf,11ff2-11ffe,1239a-123ff,1246f,12475-1247f,12544-12f8f",
   "12ff3-12fff,1342f-143ff,14647-167ff,16a39-16a3f,16a5f,16a6a-16a6d,16abf,16aca-16acf",
   "16aee-16aef,16af6-16aff,16b46-16b4f,16b5a,16b62,16b78-16b7c,16b90-16e3f,16e9b-16eff",
   "16f4b-16f4e,16f88-16f8e,16fa0-16fdf,16fe5-16fef,16ff2-16fff,187f8-187ff,18cd6-18cff",
   "18d09-1afef,1aff4,1affc,1afff,1b123-1b14f,1b153-1b163,1b168-1b16f,1b2fc-1bbff",
   "1bc6b-1bc6f,1bc7d-1bc7f,1bc89-1bc8f,1bc9a-1bc9b,1bca0-1ceff,1cf2e-1cf2f,1cf47-1cf4f",
   "1cfc4-1cfff,1d0f6-1d0ff,1d127-1d128,1d173-1d17a,1d1eb-1d1ff,1d246-1d2df,1d2f4-1d2ff",
   "1d357-1d35f,1d379-1d3ff,1d455,1d49d,1d4a0-1d4a1,1d4a3-1d4a4,1d4a7-1d4a8,1d4ad,1d4ba",
   "1d4bc,1d4c4,1d506,1d50b-1d50c,1d515,1d51d,1d53a,1d53f,1d545,1d547-1d549,1d551",
   "1d6a6-1d6a7,1d7cc-1d7cd,1da8c-1da9a,1daa0,1dab0-1deff,1df1f-1dfff,1e007,1e019-1e01a",
   "1e022,1e025,1e02b-1e0ff,1e12d-1e12f,1e13e-1e13f,1e14a-1e14d,1e150-1e28f,1e2af-1e2bf",
   "1e2fa-1e2fe,1e300-1e7df,1e7e7,1e7ec,1e7ef,1e7ff,1e8c5-1e8c6,1e8d7-1e8ff,1e94c-1e94f",
   "1e95a-1e95d,1e960-1ec70,1ecb5-1ed00,1ed3e-1edff,1ee04,1ee20,1ee23,1ee25-1ee26,1ee28",
   "1ee33,1ee38,1ee3a,1ee3c-1ee41,1ee43-1ee46,1ee48,1ee4a,1ee4c,1ee50,1ee53,1ee55-1ee56",
   "1ee58,1ee5a,1ee5c,1ee5e,1ee60,1ee63,1ee65-1ee66,1ee6b,1ee73,1ee78,1ee7d,1ee7f,1ee8a",
   "1ee9c-1eea0,1eea4,1eeaa,1eebc-1eeef,1eef2-1efff,1f02c-1f02f,1f094-1f09f,1f0af-1f0b0",
   "1f0c0,1f0d0,1f0f6-1f0ff,1f1ae-1f1e5,1f203-1f20f,1f23c-1f23f,1f249-1f24f,1f252-1f25f",
   "1f266-1f2ff,1f6d8-1f6dc,1f6ed-1f6ef,1f6fd-1f6ff,1f774-1f77f,1f7d9-1f7df,1f7ec-1f7ef",
   "1f7f1-1f7ff,1f80c-1f80f,1f848-1f84f,1f85a-1f85f,1f888-1f88f,1f8ae-1f8af,1f8b2-1f8ff",
   "1fa54-1fa5f,1fa6e-1fa6f,1fa75-1fa77,1fa7d-1fa7f,1fa87-1fa8f,1faad-1faaf,1fabb-1fabf",
   "1fac6-1facf,1fada-1fadf,1fae8-1faef,1faf7-1faff,1fb93,1fbcb-1fbef,1fbfa-1ffff",
   "2a6e0-2a6ff,2b739-2b73f,2b81e-2b81f,2cea2-2ceaf,2ebe1-2f7ff,2fa1e-2ffff,3134b-e00ff",
   "e01f0-10ffff"]

/-- Single-character lower-case mappings, as shifts. -/
def lowerShiftsText : List String :=
  ["41-5a+20,c0-d6+20,d8-de+20,100-12e+1/2,132-136+1/2,139-147+1/2,14a-176+1/2,178~79",
   "179-17d+1/2,181+d2,182-184+1/2,186+ce,187+1,189-18a+cd,18b+1,18e+4f,18f+ca,190+cb,191+1",
   "193+cd,194+cf,196+d3,197+d1,198+1,19c+d3,19d+d5,19f+d6,1a0-1a4+1/2,1a6+da,1a7+1,1a9+da",
   "1ac+1,1ae+da,1af+1,1b1-1b2+d9,1b3-1b5+1/2,1b7+db,1b8+1,1bc+1,1c4+2,1c5+1,1c7+2,1c8+1",
   "1ca+2,1cb-1db+1/2,1de-1ee+1/2,1f1+2,1f2-1f4+1/2,1f6~61,1f7~38,1f8-21e+1/2,220~82",
   "222-232+1/2,23a+2a2b,23b+1,23d~a3,23e+2a28,241+1,243~c3,244+45,245+47,246-24e+1/2",
   "370-372+1/2,376+1,37f+74,386+26,388-38a+25,38c+40,38e-38f+3f,391-3a1+20,3a3-3ab+20,3cf+8",
   "3d8-3ee+1/2,3f4~3c,3f7+1,3f9~7,3fa+1,3fd-3ff~82,400-40f+50,410-42f+20,460-480+1/2",
   "48a-4be+1/2,4c0+f,4c1-4cd+1/2,4d0-52e+1/2,531-556+30,10a0-10c5+1c60,10c7+1c60,10cd+1c60",
   "13a0-13ef+97d0,13f0-13f5+8,1c90-1cba~bc0,1cbd-1cbf~bc0,1e00-1e94+1/2,1e9e~1dbf",
   "1ea0-1efe+1/2,1f08-1f0f~8,1f18-1f1d~8,1f28-1f2f~8,1f38-1f3f~8,1f48-1f4d~8,1f59-1f5f~8/2",
   "1f68-1f6f~8,1f88-1f8f~8,1f98-1f9f~8,1fa8-1faf~8,1fb8-1fb9~8,1fba-1fbb~4a,1fbc~9",
   "1fc8-1fcb~56,1fcc~9,1fd8-1fd9~8,1fda-1fdb~64,1fe8-1fe9~8,1fea-1feb~70,1fec~7",
   "1ff8-1ff9~80,1ffa-1ffb~7e,1ffc~9,2126~1d5d,212a~20bf,212b~2046,2132+1c,2160-216f+10",
   "2183+1,24b6-24cf+1a,2c00-2c2f+30,2c60+1,2c62~29f7,2c63~ee6,2c64~29e7,2c67-2c6b+1/2",
   "2c6d~2a1c,2c6e~29fd,2c6f~2a1f,2c70~2a1e,2c72+1,2c75+1,2c7e-2c7f~2a3f,2c80-2ce2+1/2",
   "2ceb-2ced+1/2,2cf2+1,a640-a66c+1/2,a680-a69a+1/2,a722-a72e+1/2,a732-a76e+1/2",
   "a779-a77b+1/2,a77d~8a04,a77e-a786+1/2,a78b+1,a78d~a528,a790-a792+1/2,a796-a7a8+1/2",
   "a7aa~a544,a7ab~a54f,a7ac~a54b,a7ad~a541,a7ae~a544,a7b0~a512,a7b1~a52a,a7b2~a515,a7b3+3a0",
   "a7b4-a7c2+1/2,a7c4~30,a7c5~a543,a7c6~8a38,a7c7-a7c9+1/2,a7d0+1,a7d6-a7d8+1/2,a7f5+1",
   "ff21-ff3a+20,10400-10427+28,104b0-104d3+28,10570-1057a+27,1057c-1058a+27,1058c-10592+27",
   "10594-10595+27,10c80-10cb2+40,118a0-118bf+20,16e40-16e5f+20,1e900-1e921+22"]

/-- Lower-case mappings to more than one character. -/
def lowerSpecialText : List String :=
  ["130=69.307"]

/-- Single-character upper-case mappings, as shifts. -/
def upperShiftsText : List String :=
  ["61-7a~20,b5+2e7,e0-f6~20,f8-fe~20,ff+79,101-12f~1/2,131~e8,133-137~1/2,13a-148~1/2",
   "14b-177~1/2,17a-17e~1/2,17f~12c,180+c3,183-185~1/2,188~1,18c~1,192~1,195+61,199~1,19a+a3",
   "19e+82,1a1-1a5~1/2,1a8~1,1ad~1,1b0~1,1b4-1b6~1/2,1b9~1,1bd~1,1bf+38,1c5~1,1c6~2,1c8~1",
   "1c9~2,1cb~1,1cc~2,1ce-1dc~1/2,1dd~4f,1df-1ef~1/2,1f2~1,1f3~2,1f5~1,1f9-21f~1/2",
   "223-233~1/2,23c~1,23f-240+2a3f,242~1,247-24f~1/2,250+2a1f,251+2a1c,252+2a1e,253~d2",
   "254~ce,256-257~cd,259~ca,25b~cb,25c+a54f,260~cd,261+a54b,263~cf,265+a528,266+a544,268~d1",
   "269~d3,26a+a544,26b+29f7,26c+a541,26f~d3,271+29fd,272~d5,275~d6,27d+29e7,280~da,282+a543",
   "283~da,287+a52a,288~da,289~45,28a-28b~d9,28c~47,292~db,29d+a515,29e+a512,345+54",
   "371-373~1/2,377~1,37b-37d+82,3ac~26,3ad-3af~25,3b1-3c1~20,3c2~1f,3c3-3cb~20,3cc~40",
   "3cd-3ce~3f,3d0~3e,3d1~39,3d5~2f,3d6~36,3d7~8,3d9-3ef~1/2,3f0~56,3f1~50,3f2+7,3f3~74",
   "3f5~60,3f8~1,3fb~1,430-44f~20,450-45f~50,461-481~1/2,48b-4bf~1/2,4c2-4ce~1/2,4cf~f",
   "4d1-52f~1/2,561-586~30,10d0-10fa+bc0,10fd-10ff+bc0,13f8-13fd~8,1c80~186e,1c81~186d",
   "1c82~1864,1c83-1c84~1862,1c85~1863,1c86~185c,1c87~1825,1c88+89c2,1d79+8a04,1d7d+ee6",
   "1d8e+8a38,1e01-1e95~1/2,1e9b~3b,1ea1-1eff~1/2,1f00-1f07+8,1f10-1f15+8,1f20-1f27+8",
   "1f30-1f37+8,1f40-1f45+8,1f51-1f57+8/2,1f60-1f67+8,1f70-1f71+4a,1f72-1f75+56,1f76-1f77+64",
   "1f78-1f79+80,1f7a-1f7b+70,1f7c-1f7d+7e,1fb0-1fb1+8,1fbe~1c25,1fd0-1fd1+8,1fe0-1fe1+8",
   "1fe5+7,214e~1c,2170-217f~10,2184~1,24d0-24e9~1a,2c30-2c5f~30,2c61~1,2c65~2a2b,2c66~2a28",
   "2c68-2c6c~1/2,2c73~1,2c76~1,2c81-2ce3~1/2,2cec-2cee~1/2,2cf3~1,2d00-2d25~1c60,2d27~1c60",
   "2d2d~1c60,a641-a66d~1/2,a681-a69b~1/2,a723-a72f~1/2,a733-a76f~1/2,a77a-a77c~1/2",
   "a77f-a787~1/2,a78c~1,a791-a793~1/2,a794+30,a797-a7a9~1/2,a7b5-a7c3~1/2,a7c8-a7ca~1/2",
   "a7d1~1,a7d7-a7d9~1/2,a7f6~1,ab53~3a0,ab70-abbf~97d0,ff41-ff5a~20,10428-1044f~28",
   "104d8-104fb~28,10597-105a1~27,105a3-105b1~27,105b3-105b9~27,105bb-105bc~27",
   "10cc0-10cf2~40,118c0-118df~20,16e60-16e7f~20,1e922-1e943~22"]

/-- Upper-case mappings to more than one character. -/
def upperSpecialText : List String :=
  ["df=53.53,149=2bc.4e,1f0=4a.30c,390=399.308.301,3b0=3a5.308.301,587=535.552,1e96=48.331",
   "1e97=54.308,1e98=57.30a,1e99=59.30a,1e9a=41.2be,1f50=3a5.313,1f52=3a5.313.300",
   "1f54=3a5.313.301,1f56=3a5.313.342,1f80=1f08.399,1f81=1f09.399,1f82=1f0a.399",
   "1f83=1f0b.399,1f84=1f0c.399,1f85=1f0d.399,1f86=1f0e.399,1f87=1f0f.399,1f88=1f08.399",
   "1f89=1f09.399,1f8a=1f0a.399,1f8b=1f0b.399,1f8c=1f0c.399,1f8d=1f0d.399,1f8e=1f0e.399",
   "1f8f=1f0f.399,1f90=1f28.399,1f91=1f29.399,1f92=1f2a.399,1f93=1f2b.399,1f94=1f2c.399",
   "1f95=1f2d.399,1f96=1f2e.399,1f97=1f2f.399,1f98=1f28.399,1f99=1f29.399,1f9a=1f2a.399",
   "1f9b=1f2b.399,1f9c=1f2c.399,1f9d=1f2d.399,1f9e=1f2e.399,1f9f=1f2f.399,1fa0=1f68.399",
   "1fa1=1f69.399,1fa2=1f6a.399,1fa3=1f6b.399,1fa4=1f6c.399,1fa5=1f6d.399,1fa6=1f6e.399",
   "1fa7=1f6f.399,1fa8=1f68.399,1fa9=1f69.399,1faa=1f6a.399,1fab=1f6b.399,1fac=1f6c.399",
   "1fad=1f6d.399,1fae=1f6e.399,1faf=1f6f.399,1fb2=1fba.399,1fb3=391.399,1fb4=386.399",
   "1fb6=391.342,1fb7=391.342.399,1fbc=391.399,1fc2=1fca.399,1fc3=397.399,1fc4=389.399",
   "1fc6=397.342,1fc7=397.342.399,1fcc=397.399,1fd2=399.308.300,1fd3=399.308.301",
   "1fd6=399.342,1fd7=399.308.342,1fe2=3a5.308.300,1fe3=3a5.308.301,1fe4=3a1.313",
   "1fe6=3a5.342,1fe7=3a5.308.342,1ff2=1ffa.399,1ff3=3a9.399,1ff4=38f.399,1ff6=3a9.342",
   "1ff7=3a9.342.399,1ffc=3a9.399,fb00=46.46,fb01=46.49,fb02=46.4c,fb03=46.46.49",
   "fb04=46.46.4c,fb05=53.54,fb06=53.54,fb13=544.546,fb14=544.535,fb15=544.53b,fb16=54e.546",
   "fb17=544.53d"]

/-- The case-ignorable code points (marks, modifiers and the like), skipped when deciding
whether a capital sigma ends a word. -/
def caseIgnorableText : List String :=
  ["27,2e,3a,5e,60,a8,ad,af,b4,b7-b8,2b0-36f,374-375,37a,384-385,387,483-489,559,55f,591-5bd",
   "5bf,5c1-5c2,5c4-5c5,5c7,5f4,600-605,610-61a,61c,640,64b-65f,670,6d6-6dd,6df-6e8,6ea-6ed",
   "70f,711,730-74a,7a6-7b0,7eb-7f5,7fa,7fd,816-82d,859-85b,888,890-891,898-89f,8c9-902,93a",
   "93c,941-948,94d,951-957,962-963,971,981,9bc,9c1-9c4,9cd,9e2-9e3,9fe,a01-a02,a3c,a41-a42",
   "a47-a48,a4b-a4d,a51,a70-a71,a75,a81-a82,abc,ac1-ac5,ac7-ac8,acd,ae2-ae3,afa-aff,b01,b3c",
   "b3f,b41-b44,b4d,b55-b56,b62-b63,b82,bc0,bcd,c00,c04,c3c,c3e-c40,c46-c48,c4a-c4d,c55-c56",
   "c62-c63,c81,cbc,cbf,cc6,ccc-ccd,ce2-ce3,d00-d01,d3b-d3c,d41-d44,d4d,d62-d63,d81,dca",
   "dd2-dd4,dd6,e31,e34-e3a,e46-e4e,eb1,eb4-ebc,ec6,ec8-ecd,f18-f19,f35,f37,f39,f71-f7e",
   "f80-f84,f86-f87,f8d-f97,f99-fbc,fc6,102d-1030,1032-1037,1039-103a,103d-103e,1058-1059",
   "105e-1060,1071-1074,1082,1085-1086,108d,109d,10fc,135d-135f,1712-1714,1732-1733",
   "1752-1753,1772-1773,17b4-17b5,17b7-17bd,17c6,17c9-17d3,17d7,17dd,180b-180f,1843",
   "1885-1886,18a9,1920-1922,1927-1928,1932,1939-193b,1a17-1a18,1a1b,1a56,1a58-1a5e,1a60",
   "1a62,1a65-1a6c,1a73-1a7c,1a7f,1aa7,1ab0-1ace,1b00-1b03,1b34,1b36-1b3a,1b3c,1b42",
   "1b6b-1b73,1b80-1b81,1ba2-1ba5,1ba8-1ba9,1bab-1bad,1be6,1be8-1be9,1bed,1bef-1bf1",
   "1c2c-1c33,1c36-1c37,1c78-1c7d,1cd0-1cd2,1cd4-1ce0,1ce2-1ce8,1ced,1cf4,1cf8-1cf9",
   "1d2c-1d6a,1d78,1d9b-1dff,1fbd,1fbf-1fc1,1fcd-1fcf,1fdd-1fdf,1fed-1fef,1ffd-1ffe",
   "200b-200f,2018-2019,2024,2027,202a-202e,2060-2064,2066-206f,2071,207f,2090-209c",
   "20d0-20f0,2c7c-2c7d,2cef-2cf1,2d6f,2d7f,2de0-2dff,2e2f,3005,302a-302d,3031-3035,303b",
   "3099-309e,30fc-30fe,a015,a4f8-a4fd,a60c,a66f-a672,a674-a67d,a67f,a69c-a69f,a6f0-a6f1",
   "a700-a721,a770,a788-a78a,a7f2-a7f4,a7f8-a7f9,a802,a806,a80b,a825-a826,a82c,a8c4-a8c5",
   "a8e0-a8f1,a8ff,a926-a92d,a947-a951,a980-a982,a9b3,a9b6-a9b9,a9bc-a9bd,a9cf,a9e5-a9e6",
   "aa29-aa2e,aa31-aa32,aa35-aa36,aa43,aa4c,aa70,aa7c,aab0,aab2-aab4,aab7-aab8,aabe-aabf",
   "aac1,aadd,aaec-aaed,aaf3-aaf4,aaf6,ab5b-ab5f,ab69-ab6b,abe5,abe8,abed,fb1e,fbb2-fbc2",
   "fe00-fe0f,fe13,fe20-fe2f,fe52,fe55,feff,ff07,ff0e,ff1a,ff3e,ff40,ff70,ff9e-ff9f,ffe3",
   "fff9-fffb,101fd,102e0,10376-1037a,10780-10785,10787-107b0,107b2-107ba,10a01-10a03",
   "10a05-10a06,10a0c-10a0f,10a38-10a3a,10a3f,10ae5-10ae6,10d24-10d27,10eab-10eac",
   "10f46-10f50,10f82-10f85,11001,11038-11046,11070,11073-11074,1107f-11081,110b3-110b6",
   "110b9-110ba,110bd,110c2,110cd,11100-11102,11127-1112b,1112d-11134,11173,11180-11181",
   "111b6-111be,111c9-111cc,111cf,1122f-11231,11234,11236-11237,1123e,112df,112e3-112ea",
   "11300-11301,1133b-1133c,11340,11366-1136c,11370-11374,11438-1143f,11442-11444,11446",
   "1145e,114b3-114b8,114ba,114bf-114c0,114c2-114c3,115b2-115b5,115bc-115bd,115bf-115c0",
   "115dc-115dd,11633-1163a,1163d,1163f-11640,116ab,116ad,116b0-116b5,116b7,1171d-1171f",
   "11722-11725,11727-1172b,1182f-11837,11839-1183a,1193b-1193c,1193e,11943,119d4-119d7",
   "119da-119db,119e0,11a01-11a0a,11a33-11a38,11a3b-11a3e,11a47,11a51-11a56,11a59-11a5b",
   "11a8a-11a96,11a98-11a99,11c30-11c36,11c38-11c3d,11c3f,11c92-11ca7,11caa-11cb0",
   "11cb2-11cb3,11cb5-11cb6,11d31-11d36,11d3a,11d3c-11d3d,11d3f-11d45,11d47,11d90-11d91",
   "11d95,11d97,11ef3-11ef4,13430-13438,16af0-16af4,16b30-16b36,16b40-16b43,16f4f",
   "16f8f-16f9f,16fe0-16fe1,16fe3-16fe4,1aff0-1aff3,1aff5-1affb,1affd-1affe,1bc9d-1bc9e",
   "1bca0-1bca3,1cf00-1cf2d,1cf30-1cf46,1d167-1d169,1d173-1d182,1d185-1d18b,1d1aa-1d1ad",
   "1d242-1d244,1da00-1da36,1da3b-1da6c,1da75,1da84,1da9b-1da9f,1daa1-1daaf,1e000-1e006",
   "1e008-1e018,1e01b-1e021,1e023-1e024,1e026-1e02a,1e130-1e13d,1e2ae,1e2ec-1e2ef",
   "1e8d0-1e8d6,1e944-1e94b,1f3fb-1f3ff,e0001,e0020-e007f,e0100-e01ef"]

/-- The cased code points that are not case-ignorable. -/
def casedLettersText : List String :=
  ["41-5a,61-7a,aa,b5,ba,c0-d6,d8-f6,f8-1ba,1bc-1bf,1c4-293,295-2af,370-373,376-377,37b-37d",
   "37f,386,388-38a,38c,38e-3a1,3a3-3f5,3f7-481,48a-52f,531-556,560-588,10a0-10c5,10c7,10cd",
   "10d0-10fa,10fd-10ff,13a0-13f5,13f8-13fd,1c80-1c88,1c90-1cba,1cbd-1cbf,1d00-1d2b",
   "1d6b-1d77,1d79-1d9a,1e00-1f15,1f18-1f1d,1f20-1f45,1f48-1f4d,1f50-1f57,1f59,1f5b,1f5d",
   "1f5f-1f7d,1f80-1fb4,1fb6-1fbc,1fbe,1fc2-1fc4,1fc6-1fcc,1fd0-1fd3,1fd6-1fdb,1fe0-1fec",
   "1ff2-1ff4,1ff6-1ffc,2102,2107,210a-2113,2115,2119-211d,2124,2126,2128,212a-212d",
   "212f-2134,2139,213c-213f,2145-2149,214e,2160-217f,2183-2184,24b6-24e9,2c00-2c7b",
   "2c7e-2ce4,2ceb-2cee,2cf2-2cf3,2d00-2d25,2d27,2d2d,a640-a66d,a680-a69b,a722-a76f",
   "a771-a787,a78b-a78e,a790-a7ca,a7d0-a7d1,a7d3,a7d5-a7d9,a7f5-a7f6,a7fa,ab30-ab5a",
   "ab60-ab68,ab70-abbf,fb00-fb06,fb13-fb17,ff21-ff3a,ff41-ff5a,10400-1044f,104b0-104d3",
   "104d8-104fb,10570-1057a,1057c-1058a,1058c-10592,10594-10595,10597-105a1,105a3-105b1",
   "105b3-105b9,105bb-105bc,10c80-10cb2,10cc0-10cf2,118a0-118df,16e40-16e7f,1d400-1d454",
   "1d456-1d49c,1d49e-1d49f,1d4a2,1d4a5-1d4a6,1d4a9-1d4ac,1d4ae-1d4b9,1d4bb,1d4bd-1d4c3",
   "1d4c5-1d505,1d507-1d50a,1d50d-1d514,1d516-1d51c,1d51e-1d539,1d53b-1d53e,1d540-1d544",
   "1d546,1d54a-1d550,1d552-1d6a5,1d6a8-1d6c0,1d6c2-1d6da,1d6dc-1d6fa,1d6fc-1d714",
   "1d716-1d734,1d736-1d74e,1d750-1d76e,1d770-1d788,1d78a-1d7a8,1d7aa-1d7c2,1d7c4-1d7cb",
   "1df00-1df09,1df0b-1df1e,1e900-1e943,1f130-1f149,1f150-1f169,1f170-1f189"]

/-- The digit zero of each run of ten decimal digits. -/
def digitZerosText : List String :=
  ["30,660,6f0,7c0,966,9e6,a66,ae6,b66,be6,c66,ce6,d66,de6,e50,ed0,f20,1040,1090,17e0,1810",
   "1946,19d0,1a80,1a90,1b50,1bb0,1c40,1c50,a620,a8d0,a900,a9d0,a9f0,aa50,abf0,ff10,104a0",
   "10d30,11066,110f0,11136,111d0,112f0,11450,114d0,11650,116c0,11730,118e0,11950,11c50",
   "11d50,11da0,16a60,16ac0,16b50,1d7ce,1d7d8,1d7e2,1d7ec,1d7f6,1e140,1e2f0,1e950,1fbf0"]

/-! ## Decoding -/

/-- The value of a hexadecimal digit (zero for any other character). -/
def hexDigit (c : Char) : Nat :=
  if '0' ≤ c && c ≤ '9' then c.toNat - '0'.toNat
  else if 'a' ≤ c && c ≤ 'f' then c.toNat - 'a'.toNat + 10
  else 0

/-- Hexadecimal digits as a number. -/
def hex (s : String) : Nat := s.foldl (fun n c => n * 16 + hexDigit c) 0

/-- A run of code points `lo, lo + stride, …` up to `hi`, each moved by `shift` to its
counterpart. A plain range has shift zero and stride one. -/
structure Run where
  lo : Nat
  hi : Nat
  shift : Int := 0
  stride : Nat := 1
  deriving Inhabited

/-- The entries of a table: its lines joined, split at commas. -/
def entries (table : List String) : List String :=
  (",".intercalate table).splitOn ","

/-- A range `lo-hi`, or a single code point. -/
def range (e : String) : Nat × Nat :=
  match e.splitOn "-" with
  | [a, b] => (hex a, hex b)
  | a :: _ => (hex a, hex a)
  | [] => (0, 0)

/-- A table of ranges. -/
def ranges (table : List String) : Array Run :=
  ((entries table).map fun e => let (lo, hi) := range e; ({ lo, hi } : Run)).toArray

/-- One entry of a case table: a range, its shift and its stride. -/
def caseRun (e : String) : Run :=
  let (body, stride) := match e.splitOn "/" with
    | [b, s] => (b, hex s)
    | _ => (e, 1)
  match body.splitOn "+", body.splitOn "~" with
  | [r, d], _ => let (lo, hi) := range r; { lo, hi, shift := (hex d : Int), stride }
  | _, [r, d] => let (lo, hi) := range r; { lo, hi, shift := -(hex d : Int), stride }
  | _, _ => let (lo, hi) := range body; { lo, hi, stride }

/-- A table of case runs. -/
def caseRuns (table : List String) : Array Run := ((entries table).map caseRun).toArray

/-- A table of mappings to several characters: `cp=a.b.c`. -/
def expansions (table : List String) : List (Nat × List Char) :=
  (entries table).map fun e =>
    match e.splitOn "=" with
    | [k, v] => (hex k, (v.splitOn ".").map fun d => Char.ofNat (hex d))
    | _ => (0, [])

/-! ## Searching -/

/-- The run of a sorted, disjoint table that holds a code point: the last run starting at or
before it, when it reaches that far. The bisection counts the runs starting at or before the code
point over the half-open interval `[lo, hi)`. -/
def find? (table : Array Run) (n : Nat) : Option Run :=
  let rec count : Nat → Nat → Nat → Nat
    | 0, lo, _ => lo
    | fuel + 1, lo, hi =>
      if lo < hi then
        let mid := lo + (hi - lo) / 2
        if (table.getD mid default).lo ≤ n then count fuel (mid + 1) hi else count fuel lo mid
      else lo
  match count 64 0 table.size with
  | 0 => none
  | k + 1 =>
    let r := table.getD k default
    if n ≤ r.hi then some r else none

/-- Whether a table of ranges holds a code point. -/
def holds (table : Array Run) (n : Nat) : Bool := (find? table n).isSome

/-- The counterpart of a code point under a case table, if it has one. -/
def counterpart? (table : Array Run) (n : Nat) : Option Nat :=
  match find? table n with
  | some r => if (n - r.lo) % r.stride == 0 then some (n + r.shift).toNat else none
  | none => none

/-! ## Properties -/

/-- The decoded tables. -/
def nonPrintable : Array Run := ranges nonPrintableText
def lowerRuns : Array Run := caseRuns lowerShiftsText
def upperRuns : Array Run := caseRuns upperShiftsText
def lowerExpansions : List (Nat × List Char) := expansions lowerSpecialText
def upperExpansions : List (Nat × List Char) := expansions upperSpecialText
def ignorable : Array Run := ranges caseIgnorableText
def cased : Array Run := ranges casedLettersText
def digitRuns : Array Run :=
  ((entries digitZerosText).map fun e => ({ lo := hex e, hi := hex e + 9 } : Run)).toArray

/-- Whether a character prints as itself: not a control, format character, surrogate, private-use
or unassigned code point, nor a separator other than the ASCII space. -/
def isPrintable (c : Char) : Bool := !holds nonPrintable c.toNat

/-- Whether a character is whitespace. -/
def isSpace (c : Char) : Bool :=
  let n := c.toNat
  n == 0x20 || (0x09 ≤ n && n ≤ 0x0d) || (0x1c ≤ n && n ≤ 0x1f) || n == 0x85 || n == 0xa0 ||
  n == 0x1680 || (0x2000 ≤ n && n ≤ 0x200a) || n == 0x2028 || n == 0x2029 || n == 0x202f ||
  n == 0x205f || n == 0x3000

/-- The value of a decimal digit of any script. -/
def digitValue? (c : Char) : Option Nat :=
  (find? digitRuns c.toNat).map fun r => c.toNat - r.lo

/-- Whether a character is case-ignorable. -/
def isCaseIgnorable (c : Char) : Bool := holds ignorable c.toNat

/-- Whether a character that is not case-ignorable is cased. -/
def isCased (c : Char) : Bool := holds cased c.toNat

/-- A character in lower case, out of context. Of ASCII only the capitals `A` to `Z` change, so
that range is settled without the tables. -/
def lowerChar (c : Char) : List Char :=
  if c.toNat < 0x80 then [if 'A' ≤ c && c ≤ 'Z' then Char.ofNat (c.toNat + 32) else c]
  else match lowerExpansions.lookup c.toNat with
    | some cs => cs
    | none => [((counterpart? lowerRuns c.toNat).map Char.ofNat).getD c]

/-- A character in upper case. -/
def upperChar (c : Char) : List Char :=
  match upperExpansions.lookup c.toNat with
  | some cs => cs
  | none => [((counterpart? upperRuns c.toNat).map Char.ofNat).getD c]

/-- Whether a capital sigma between `before` (reversed) and `after` ends a word: the nearest
character before it that is not case-ignorable is cased, and the nearest after it is not. -/
def endsWord (before after : List Char) : Bool :=
  match before.dropWhile isCaseIgnorable, after.dropWhile isCaseIgnorable with
  | c :: _, d :: _ => isCased c && !isCased d
  | c :: _, [] => isCased c
  | [], _ => false

/-- A text in lower case; a capital sigma that ends a word becomes the final sigma. -/
def lower (s : String) : String :=
  let rec go : List Char → List Char → List Char
    | _, [] => []
    | before, c :: after =>
      let out :=
        if c.toNat == 0x3A3 then [Char.ofNat (if endsWord before after then 0x3C2 else 0x3C3)]
        else lowerChar c
      out ++ go (c :: before) after
  String.ofList (go [] s.toList)

/-- A text in upper case. -/
def upper (s : String) : String := String.ofList (s.toList.flatMap upperChar)

end Unicode

end TransitRevenue
