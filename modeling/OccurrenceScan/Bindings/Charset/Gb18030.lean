import OccurrenceScan.Bindings.Charset

namespace OccurrenceScan

namespace Charset

/-!
# GB 18030

The two-byte pairs GB 18030 adds to GBK, by lead and trail byte, and the ranges that map the
four-byte sequence numbers below 39420 onto the Basic Multilingual Plane.
-/

/-- Runs 1 to 53 of `gb18030Extension`. -/
def gb18030ExtensionRuns0 : Array Run := #[
  ⟨0xA1, 0x40, "\uE4C6\uE4C7\uE4C8\uE4C9\uE4CA\uE4CB\uE4CC\uE4CD\uE4CE\uE4CF\uE4D0\uE4D1\uE4D2\uE4D3\uE4D4\uE4D5\uE4D6\uE4D7\uE4D8\uE4D9\uE4DA\uE4DB\uE4DC\uE4DD\uE4DE\uE4DF\uE4E0\uE4E1\uE4E2\uE4E3\uE4E4\uE4E5\uE4E6\uE4E7\uE4E8\uE4E9\uE4EA\uE4EB\uE4EC\uE4ED\uE4EE\uE4EF\uE4F0\uE4F1\uE4F2\uE4F3\uE4F4\uE4F5\uE4F6\uE4F7\uE4F8\uE4F9\uE4FA\uE4FB\uE4FC\uE4FD\uE4FE\uE4FF\uE500\uE501\uE502\uE503\uE504"⟩,
  ⟨0xA1, 0x80, "\uE505\uE506\uE507\uE508\uE509\uE50A\uE50B\uE50C\uE50D\uE50E\uE50F\uE510\uE511\uE512\uE513\uE514\uE515\uE516\uE517\uE518\uE519\uE51A\uE51B\uE51C\uE51D\uE51E\uE51F\uE520\uE521\uE522\uE523\uE524\uE525"⟩,
  ⟨0xA2, 0x40, "\uE526\uE527\uE528\uE529\uE52A\uE52B\uE52C\uE52D\uE52E\uE52F\uE530\uE531\uE532\uE533\uE534\uE535\uE536\uE537\uE538\uE539\uE53A\uE53B\uE53C\uE53D\uE53E\uE53F\uE540\uE541\uE542\uE543\uE544\uE545\uE546\uE547\uE548\uE549\uE54A\uE54B\uE54C\uE54D\uE54E\uE54F\uE550\uE551\uE552\uE553\uE554\uE555\uE556\uE557\uE558\uE559\uE55A\uE55B\uE55C\uE55D\uE55E\uE55F\uE560\uE561\uE562\uE563\uE564"⟩,
  ⟨0xA2, 0x80, "\uE565\uE566\uE567\uE568\uE569\uE56A\uE56B\uE56C\uE56D\uE56E\uE56F\uE570\uE571\uE572\uE573\uE574\uE575\uE576\uE577\uE578\uE579\uE57A\uE57B\uE57C\uE57D\uE57E\uE57F\uE580\uE581\uE582\uE583\uE584\uE585"⟩,
  ⟨0xA2, 0xAB, "\uE766\uE767\uE768\uE769\uE76A\uE76B"⟩,
  ⟨0xA2, 0xE3, "€\uE76D"⟩,
  ⟨0xA2, 0xEF, "\uE76E\uE76F"⟩,
  ⟨0xA2, 0xFD, "\uE770\uE771"⟩,
  ⟨0xA3, 0x40, "\uE586\uE587\uE588\uE589\uE58A\uE58B\uE58C\uE58D\uE58E\uE58F\uE590\uE591\uE592\uE593\uE594\uE595\uE596\uE597\uE598\uE599\uE59A\uE59B\uE59C\uE59D\uE59E\uE59F\uE5A0\uE5A1\uE5A2\uE5A3\uE5A4\uE5A5\uE5A6\uE5A7\uE5A8\uE5A9\uE5AA\uE5AB\uE5AC\uE5AD\uE5AE\uE5AF\uE5B0\uE5B1\uE5B2\uE5B3\uE5B4\uE5B5\uE5B6\uE5B7\uE5B8\uE5B9\uE5BA\uE5BB\uE5BC\uE5BD\uE5BE\uE5BF\uE5C0\uE5C1\uE5C2\uE5C3\uE5C4"⟩,
  ⟨0xA3, 0x80, "\uE5C5\uE5C6\uE5C7\uE5C8\uE5C9\uE5CA\uE5CB\uE5CC\uE5CD\uE5CE\uE5CF\uE5D0\uE5D1\uE5D2\uE5D3\uE5D4\uE5D5\uE5D6\uE5D7\uE5D8\uE5D9\uE5DA\uE5DB\uE5DC\uE5DD\uE5DE\uE5DF\uE5E0\uE5E1\uE5E2\uE5E3\uE5E4\uE5E5"⟩,
  ⟨0xA4, 0x40, "\uE5E6\uE5E7\uE5E8\uE5E9\uE5EA\uE5EB\uE5EC\uE5ED\uE5EE\uE5EF\uE5F0\uE5F1\uE5F2\uE5F3\uE5F4\uE5F5\uE5F6\uE5F7\uE5F8\uE5F9\uE5FA\uE5FB\uE5FC\uE5FD\uE5FE\uE5FF\uE600\uE601\uE602\uE603\uE604\uE605\uE606\uE607\uE608\uE609\uE60A\uE60B\uE60C\uE60D\uE60E\uE60F\uE610\uE611\uE612\uE613\uE614\uE615\uE616\uE617\uE618\uE619\uE61A\uE61B\uE61C\uE61D\uE61E\uE61F\uE620\uE621\uE622\uE623\uE624"⟩,
  ⟨0xA4, 0x80, "\uE625\uE626\uE627\uE628\uE629\uE62A\uE62B\uE62C\uE62D\uE62E\uE62F\uE630\uE631\uE632\uE633\uE634\uE635\uE636\uE637\uE638\uE639\uE63A\uE63B\uE63C\uE63D\uE63E\uE63F\uE640\uE641\uE642\uE643\uE644\uE645"⟩,
  ⟨0xA4, 0xF4, "\uE772\uE773\uE774\uE775\uE776\uE777\uE778\uE779\uE77A\uE77B\uE77C"⟩,
  ⟨0xA5, 0x40, "\uE646\uE647\uE648\uE649\uE64A\uE64B\uE64C\uE64D\uE64E\uE64F\uE650\uE651\uE652\uE653\uE654\uE655\uE656\uE657\uE658\uE659\uE65A\uE65B\uE65C\uE65D\uE65E\uE65F\uE660\uE661\uE662\uE663\uE664\uE665\uE666\uE667\uE668\uE669\uE66A\uE66B\uE66C\uE66D\uE66E\uE66F\uE670\uE671\uE672\uE673\uE674\uE675\uE676\uE677\uE678\uE679\uE67A\uE67B\uE67C\uE67D\uE67E\uE67F\uE680\uE681\uE682\uE683\uE684"⟩,
  ⟨0xA5, 0x80, "\uE685\uE686\uE687\uE688\uE689\uE68A\uE68B\uE68C\uE68D\uE68E\uE68F\uE690\uE691\uE692\uE693\uE694\uE695\uE696\uE697\uE698\uE699\uE69A\uE69B\uE69C\uE69D\uE69E\uE69F\uE6A0\uE6A1\uE6A2\uE6A3\uE6A4\uE6A5"⟩,
  ⟨0xA5, 0xF7, "\uE77D\uE77E\uE77F\uE780\uE781\uE782\uE783\uE784"⟩,
  ⟨0xA6, 0x40, "\uE6A6\uE6A7\uE6A8\uE6A9\uE6AA\uE6AB\uE6AC\uE6AD\uE6AE\uE6AF\uE6B0\uE6B1\uE6B2\uE6B3\uE6B4\uE6B5\uE6B6\uE6B7\uE6B8\uE6B9\uE6BA\uE6BB\uE6BC\uE6BD\uE6BE\uE6BF\uE6C0\uE6C1\uE6C2\uE6C3\uE6C4\uE6C5\uE6C6\uE6C7\uE6C8\uE6C9\uE6CA\uE6CB\uE6CC\uE6CD\uE6CE\uE6CF\uE6D0\uE6D1\uE6D2\uE6D3\uE6D4\uE6D5\uE6D6\uE6D7\uE6D8\uE6D9\uE6DA\uE6DB\uE6DC\uE6DD\uE6DE\uE6DF\uE6E0\uE6E1\uE6E2\uE6E3\uE6E4"⟩,
  ⟨0xA6, 0x80, "\uE6E5\uE6E6\uE6E7\uE6E8\uE6E9\uE6EA\uE6EB\uE6EC\uE6ED\uE6EE\uE6EF\uE6F0\uE6F1\uE6F2\uE6F3\uE6F4\uE6F5\uE6F6\uE6F7\uE6F8\uE6F9\uE6FA\uE6FB\uE6FC\uE6FD\uE6FE\uE6FF\uE700\uE701\uE702\uE703\uE704\uE705"⟩,
  ⟨0xA6, 0xB9, "\uE785\uE786\uE787\uE788\uE789\uE78A\uE78B\uE78C"⟩,
  ⟨0xA6, 0xD9, "\uE78D\uE78E\uE78F\uE790\uE791\uE792\uE793"⟩,
  ⟨0xA6, 0xEC, "\uE794\uE795"⟩,
  ⟨0xA6, 0xF3, "\uE796"⟩,
  ⟨0xA6, 0xF6, "\uE797\uE798\uE799\uE79A\uE79B\uE79C\uE79D\uE79E\uE79F"⟩,
  ⟨0xA7, 0x40, "\uE706\uE707\uE708\uE709\uE70A\uE70B\uE70C\uE70D\uE70E\uE70F\uE710\uE711\uE712\uE713\uE714\uE715\uE716\uE717\uE718\uE719\uE71A\uE71B\uE71C\uE71D\uE71E\uE71F\uE720\uE721\uE722\uE723\uE724\uE725\uE726\uE727\uE728\uE729\uE72A\uE72B\uE72C\uE72D\uE72E\uE72F\uE730\uE731\uE732\uE733\uE734\uE735\uE736\uE737\uE738\uE739\uE73A\uE73B\uE73C\uE73D\uE73E\uE73F\uE740\uE741\uE742\uE743\uE744"⟩,
  ⟨0xA7, 0x80, "\uE745\uE746\uE747\uE748\uE749\uE74A\uE74B\uE74C\uE74D\uE74E\uE74F\uE750\uE751\uE752\uE753\uE754\uE755\uE756\uE757\uE758\uE759\uE75A\uE75B\uE75C\uE75D\uE75E\uE75F\uE760\uE761\uE762\uE763\uE764\uE765"⟩,
  ⟨0xA7, 0xC2, "\uE7A0\uE7A1\uE7A2\uE7A3\uE7A4\uE7A5\uE7A6\uE7A7\uE7A8\uE7A9\uE7AA\uE7AB\uE7AC\uE7AD\uE7AE"⟩,
  ⟨0xA7, 0xF2, "\uE7AF\uE7B0\uE7B1\uE7B2\uE7B3\uE7B4\uE7B5\uE7B6\uE7B7\uE7B8\uE7B9\uE7BA\uE7BB"⟩,
  ⟨0xA8, 0x96, "\uE7BC\uE7BD\uE7BE\uE7BF\uE7C0\uE7C1\uE7C2\uE7C3\uE7C4\uE7C5\uE7C6"⟩,
  ⟨0xA8, 0xBC, "\uE7C7"⟩,
  ⟨0xA8, 0xBF, "ǹ"⟩,
  ⟨0xA8, 0xC1, "\uE7C9\uE7CA\uE7CB\uE7CC"⟩,
  ⟨0xA8, 0xEA, "\uE7CD\uE7CE\uE7CF\uE7D0\uE7D1\uE7D2\uE7D3\uE7D4\uE7D5\uE7D6\uE7D7\uE7D8\uE7D9\uE7DA\uE7DB\uE7DC\uE7DD\uE7DE\uE7DF\uE7E0\uE7E1"⟩,
  ⟨0xA9, 0x58, "\uE7E2"⟩,
  ⟨0xA9, 0x5B, "\uE7E3"⟩,
  ⟨0xA9, 0x5D, "\uE7E4\uE7E5\uE7E6"⟩,
  ⟨0xA9, 0x89, "〾⿰⿱⿲⿳⿴⿵⿶⿷⿸⿹⿺⿻"⟩,
  ⟨0xA9, 0x97, "\uE7F4\uE7F5\uE7F6\uE7F7\uE7F8\uE7F9\uE7FA\uE7FB\uE7FC\uE7FD\uE7FE\uE7FF\uE800"⟩,
  ⟨0xA9, 0xF0, "\uE801\uE802\uE803\uE804\uE805\uE806\uE807\uE808\uE809\uE80A\uE80B\uE80C\uE80D\uE80E\uE80F"⟩,
  ⟨0xAA, 0xA1, "\uE000\uE001\uE002\uE003\uE004\uE005\uE006\uE007\uE008\uE009\uE00A\uE00B\uE00C\uE00D\uE00E\uE00F\uE010\uE011\uE012\uE013\uE014\uE015\uE016\uE017\uE018\uE019\uE01A\uE01B\uE01C\uE01D\uE01E\uE01F\uE020\uE021\uE022\uE023\uE024\uE025\uE026\uE027\uE028\uE029\uE02A\uE02B\uE02C\uE02D\uE02E\uE02F\uE030\uE031\uE032\uE033\uE034\uE035\uE036\uE037\uE038\uE039\uE03A\uE03B\uE03C\uE03D\uE03E\uE03F\uE040\uE041\uE042\uE043\uE044\uE045\uE046\uE047\uE048\uE049\uE04A\uE04B\uE04C\uE04D\uE04E\uE04F\uE050\uE051\uE052\uE053\uE054\uE055\uE056\uE057\uE058\uE059\uE05A\uE05B\uE05C\uE05D"⟩,
  ⟨0xAB, 0xA1, "\uE05E\uE05F\uE060\uE061\uE062\uE063\uE064\uE065\uE066\uE067\uE068\uE069\uE06A\uE06B\uE06C\uE06D\uE06E\uE06F\uE070\uE071\uE072\uE073\uE074\uE075\uE076\uE077\uE078\uE079\uE07A\uE07B\uE07C\uE07D\uE07E\uE07F\uE080\uE081\uE082\uE083\uE084\uE085\uE086\uE087\uE088\uE089\uE08A\uE08B\uE08C\uE08D\uE08E\uE08F\uE090\uE091\uE092\uE093\uE094\uE095\uE096\uE097\uE098\uE099\uE09A\uE09B\uE09C\uE09D\uE09E\uE09F\uE0A0\uE0A1\uE0A2\uE0A3\uE0A4\uE0A5\uE0A6\uE0A7\uE0A8\uE0A9\uE0AA\uE0AB\uE0AC\uE0AD\uE0AE\uE0AF\uE0B0\uE0B1\uE0B2\uE0B3\uE0B4\uE0B5\uE0B6\uE0B7\uE0B8\uE0B9\uE0BA\uE0BB"⟩,
  ⟨0xAC, 0xA1, "\uE0BC\uE0BD\uE0BE\uE0BF\uE0C0\uE0C1\uE0C2\uE0C3\uE0C4\uE0C5\uE0C6\uE0C7\uE0C8\uE0C9\uE0CA\uE0CB\uE0CC\uE0CD\uE0CE\uE0CF\uE0D0\uE0D1\uE0D2\uE0D3\uE0D4\uE0D5\uE0D6\uE0D7\uE0D8\uE0D9\uE0DA\uE0DB\uE0DC\uE0DD\uE0DE\uE0DF\uE0E0\uE0E1\uE0E2\uE0E3\uE0E4\uE0E5\uE0E6\uE0E7\uE0E8\uE0E9\uE0EA\uE0EB\uE0EC\uE0ED\uE0EE\uE0EF\uE0F0\uE0F1\uE0F2\uE0F3\uE0F4\uE0F5\uE0F6\uE0F7\uE0F8\uE0F9\uE0FA\uE0FB\uE0FC\uE0FD\uE0FE\uE0FF\uE100\uE101\uE102\uE103\uE104\uE105\uE106\uE107\uE108\uE109\uE10A\uE10B\uE10C\uE10D\uE10E\uE10F\uE110\uE111\uE112\uE113\uE114\uE115\uE116\uE117\uE118\uE119"⟩,
  ⟨0xAD, 0xA1, "\uE11A\uE11B\uE11C\uE11D\uE11E\uE11F\uE120\uE121\uE122\uE123\uE124\uE125\uE126\uE127\uE128\uE129\uE12A\uE12B\uE12C\uE12D\uE12E\uE12F\uE130\uE131\uE132\uE133\uE134\uE135\uE136\uE137\uE138\uE139\uE13A\uE13B\uE13C\uE13D\uE13E\uE13F\uE140\uE141\uE142\uE143\uE144\uE145\uE146\uE147\uE148\uE149\uE14A\uE14B\uE14C\uE14D\uE14E\uE14F\uE150\uE151\uE152\uE153\uE154\uE155\uE156\uE157\uE158\uE159\uE15A\uE15B\uE15C\uE15D\uE15E\uE15F\uE160\uE161\uE162\uE163\uE164\uE165\uE166\uE167\uE168\uE169\uE16A\uE16B\uE16C\uE16D\uE16E\uE16F\uE170\uE171\uE172\uE173\uE174\uE175\uE176\uE177"⟩,
  ⟨0xAE, 0xA1, "\uE178\uE179\uE17A\uE17B\uE17C\uE17D\uE17E\uE17F\uE180\uE181\uE182\uE183\uE184\uE185\uE186\uE187\uE188\uE189\uE18A\uE18B\uE18C\uE18D\uE18E\uE18F\uE190\uE191\uE192\uE193\uE194\uE195\uE196\uE197\uE198\uE199\uE19A\uE19B\uE19C\uE19D\uE19E\uE19F\uE1A0\uE1A1\uE1A2\uE1A3\uE1A4\uE1A5\uE1A6\uE1A7\uE1A8\uE1A9\uE1AA\uE1AB\uE1AC\uE1AD\uE1AE\uE1AF\uE1B0\uE1B1\uE1B2\uE1B3\uE1B4\uE1B5\uE1B6\uE1B7\uE1B8\uE1B9\uE1BA\uE1BB\uE1BC\uE1BD\uE1BE\uE1BF\uE1C0\uE1C1\uE1C2\uE1C3\uE1C4\uE1C5\uE1C6\uE1C7\uE1C8\uE1C9\uE1CA\uE1CB\uE1CC\uE1CD\uE1CE\uE1CF\uE1D0\uE1D1\uE1D2\uE1D3\uE1D4\uE1D5"⟩,
  ⟨0xAF, 0xA1, "\uE1D6\uE1D7\uE1D8\uE1D9\uE1DA\uE1DB\uE1DC\uE1DD\uE1DE\uE1DF\uE1E0\uE1E1\uE1E2\uE1E3\uE1E4\uE1E5\uE1E6\uE1E7\uE1E8\uE1E9\uE1EA\uE1EB\uE1EC\uE1ED\uE1EE\uE1EF\uE1F0\uE1F1\uE1F2\uE1F3\uE1F4\uE1F5\uE1F6\uE1F7\uE1F8\uE1F9\uE1FA\uE1FB\uE1FC\uE1FD\uE1FE\uE1FF\uE200\uE201\uE202\uE203\uE204\uE205\uE206\uE207\uE208\uE209\uE20A\uE20B\uE20C\uE20D\uE20E\uE20F\uE210\uE211\uE212\uE213\uE214\uE215\uE216\uE217\uE218\uE219\uE21A\uE21B\uE21C\uE21D\uE21E\uE21F\uE220\uE221\uE222\uE223\uE224\uE225\uE226\uE227\uE228\uE229\uE22A\uE22B\uE22C\uE22D\uE22E\uE22F\uE230\uE231\uE232\uE233"⟩,
  ⟨0xD7, 0xFA, "\uE810\uE811\uE812\uE813\uE814"⟩,
  ⟨0xF8, 0xA1, "\uE234\uE235\uE236\uE237\uE238\uE239\uE23A\uE23B\uE23C\uE23D\uE23E\uE23F\uE240\uE241\uE242\uE243\uE244\uE245\uE246\uE247\uE248\uE249\uE24A\uE24B\uE24C\uE24D\uE24E\uE24F\uE250\uE251\uE252\uE253\uE254\uE255\uE256\uE257\uE258\uE259\uE25A\uE25B\uE25C\uE25D\uE25E\uE25F\uE260\uE261\uE262\uE263\uE264\uE265\uE266\uE267\uE268\uE269\uE26A\uE26B\uE26C\uE26D\uE26E\uE26F\uE270\uE271\uE272\uE273\uE274\uE275\uE276\uE277\uE278\uE279\uE27A\uE27B\uE27C\uE27D\uE27E\uE27F\uE280\uE281\uE282\uE283\uE284\uE285\uE286\uE287\uE288\uE289\uE28A\uE28B\uE28C\uE28D\uE28E\uE28F\uE290\uE291"⟩,
  ⟨0xF9, 0xA1, "\uE292\uE293\uE294\uE295\uE296\uE297\uE298\uE299\uE29A\uE29B\uE29C\uE29D\uE29E\uE29F\uE2A0\uE2A1\uE2A2\uE2A3\uE2A4\uE2A5\uE2A6\uE2A7\uE2A8\uE2A9\uE2AA\uE2AB\uE2AC\uE2AD\uE2AE\uE2AF\uE2B0\uE2B1\uE2B2\uE2B3\uE2B4\uE2B5\uE2B6\uE2B7\uE2B8\uE2B9\uE2BA\uE2BB\uE2BC\uE2BD\uE2BE\uE2BF\uE2C0\uE2C1\uE2C2\uE2C3\uE2C4\uE2C5\uE2C6\uE2C7\uE2C8\uE2C9\uE2CA\uE2CB\uE2CC\uE2CD\uE2CE\uE2CF\uE2D0\uE2D1\uE2D2\uE2D3\uE2D4\uE2D5\uE2D6\uE2D7\uE2D8\uE2D9\uE2DA\uE2DB\uE2DC\uE2DD\uE2DE\uE2DF\uE2E0\uE2E1\uE2E2\uE2E3\uE2E4\uE2E5\uE2E6\uE2E7\uE2E8\uE2E9\uE2EA\uE2EB\uE2EC\uE2ED\uE2EE\uE2EF"⟩,
  ⟨0xFA, 0xA1, "\uE2F0\uE2F1\uE2F2\uE2F3\uE2F4\uE2F5\uE2F6\uE2F7\uE2F8\uE2F9\uE2FA\uE2FB\uE2FC\uE2FD\uE2FE\uE2FF\uE300\uE301\uE302\uE303\uE304\uE305\uE306\uE307\uE308\uE309\uE30A\uE30B\uE30C\uE30D\uE30E\uE30F\uE310\uE311\uE312\uE313\uE314\uE315\uE316\uE317\uE318\uE319\uE31A\uE31B\uE31C\uE31D\uE31E\uE31F\uE320\uE321\uE322\uE323\uE324\uE325\uE326\uE327\uE328\uE329\uE32A\uE32B\uE32C\uE32D\uE32E\uE32F\uE330\uE331\uE332\uE333\uE334\uE335\uE336\uE337\uE338\uE339\uE33A\uE33B\uE33C\uE33D\uE33E\uE33F\uE340\uE341\uE342\uE343\uE344\uE345\uE346\uE347\uE348\uE349\uE34A\uE34B\uE34C\uE34D"⟩,
  ⟨0xFB, 0xA1, "\uE34E\uE34F\uE350\uE351\uE352\uE353\uE354\uE355\uE356\uE357\uE358\uE359\uE35A\uE35B\uE35C\uE35D\uE35E\uE35F\uE360\uE361\uE362\uE363\uE364\uE365\uE366\uE367\uE368\uE369\uE36A\uE36B\uE36C\uE36D\uE36E\uE36F\uE370\uE371\uE372\uE373\uE374\uE375\uE376\uE377\uE378\uE379\uE37A\uE37B\uE37C\uE37D\uE37E\uE37F\uE380\uE381\uE382\uE383\uE384\uE385\uE386\uE387\uE388\uE389\uE38A\uE38B\uE38C\uE38D\uE38E\uE38F\uE390\uE391\uE392\uE393\uE394\uE395\uE396\uE397\uE398\uE399\uE39A\uE39B\uE39C\uE39D\uE39E\uE39F\uE3A0\uE3A1\uE3A2\uE3A3\uE3A4\uE3A5\uE3A6\uE3A7\uE3A8\uE3A9\uE3AA\uE3AB"⟩,
  ⟨0xFC, 0xA1, "\uE3AC\uE3AD\uE3AE\uE3AF\uE3B0\uE3B1\uE3B2\uE3B3\uE3B4\uE3B5\uE3B6\uE3B7\uE3B8\uE3B9\uE3BA\uE3BB\uE3BC\uE3BD\uE3BE\uE3BF\uE3C0\uE3C1\uE3C2\uE3C3\uE3C4\uE3C5\uE3C6\uE3C7\uE3C8\uE3C9\uE3CA\uE3CB\uE3CC\uE3CD\uE3CE\uE3CF\uE3D0\uE3D1\uE3D2\uE3D3\uE3D4\uE3D5\uE3D6\uE3D7\uE3D8\uE3D9\uE3DA\uE3DB\uE3DC\uE3DD\uE3DE\uE3DF\uE3E0\uE3E1\uE3E2\uE3E3\uE3E4\uE3E5\uE3E6\uE3E7\uE3E8\uE3E9\uE3EA\uE3EB\uE3EC\uE3ED\uE3EE\uE3EF\uE3F0\uE3F1\uE3F2\uE3F3\uE3F4\uE3F5\uE3F6\uE3F7\uE3F8\uE3F9\uE3FA\uE3FB\uE3FC\uE3FD\uE3FE\uE3FF\uE400\uE401\uE402\uE403\uE404\uE405\uE406\uE407\uE408\uE409"⟩,
  ⟨0xFD, 0xA1, "\uE40A\uE40B\uE40C\uE40D\uE40E\uE40F\uE410\uE411\uE412\uE413\uE414\uE415\uE416\uE417\uE418\uE419\uE41A\uE41B\uE41C\uE41D\uE41E\uE41F\uE420\uE421\uE422\uE423\uE424\uE425\uE426\uE427\uE428\uE429\uE42A\uE42B\uE42C\uE42D\uE42E\uE42F\uE430\uE431\uE432\uE433\uE434\uE435\uE436\uE437\uE438\uE439\uE43A\uE43B\uE43C\uE43D\uE43E\uE43F\uE440\uE441\uE442\uE443\uE444\uE445\uE446\uE447\uE448\uE449\uE44A\uE44B\uE44C\uE44D\uE44E\uE44F\uE450\uE451\uE452\uE453\uE454\uE455\uE456\uE457\uE458\uE459\uE45A\uE45B\uE45C\uE45D\uE45E\uE45F\uE460\uE461\uE462\uE463\uE464\uE465\uE466\uE467"⟩,
  ⟨0xFE, 0x50, "⺁\uE816\uE817\uE818⺄㑳㑇⺈⺋\uE81E㖞㘚㘎⺌⺗㥮㤘\uE826㧏㧟㩳㧐\uE82B\uE82C㭎㱮㳠⺧\uE831\uE832⺪䁖䅟⺮䌷⺳⺶⺷\uE83B䎱䎬⺻䏝䓖䙡䙌\uE843"⟩,
  ⟨0xFE, 0x80, "䜣䜩䝼䞍⻊䥇䥺䥽䦂䦃䦅䦆䦟䦛䦷䦶\uE854\uE855䲣䲟䲠䲡䱷䲢䴓䴔䴕䴖䴗䴘䴙䶮\uE864\uE468\uE469\uE46A\uE46B\uE46C\uE46D\uE46E\uE46F\uE470\uE471\uE472\uE473\uE474\uE475\uE476\uE477\uE478\uE479\uE47A\uE47B\uE47C\uE47D\uE47E\uE47F\uE480\uE481\uE482\uE483\uE484\uE485\uE486\uE487\uE488\uE489\uE48A\uE48B\uE48C\uE48D\uE48E\uE48F\uE490\uE491\uE492\uE493\uE494\uE495\uE496\uE497\uE498\uE499\uE49A\uE49B\uE49C\uE49D\uE49E\uE49F\uE4A0\uE4A1\uE4A2\uE4A3\uE4A4\uE4A5\uE4A6\uE4A7\uE4A8\uE4A9\uE4AA\uE4AB\uE4AC\uE4AD\uE4AE\uE4AF\uE4B0\uE4B1\uE4B2\uE4B3\uE4B4\uE4B5\uE4B6\uE4B7\uE4B8\uE4B9\uE4BA\uE4BB\uE4BC\uE4BD\uE4BE\uE4BF\uE4C0\uE4C1\uE4C2\uE4C3\uE4C4\uE4C5"⟩]

/-- The two-byte pairs GB 18030 adds to GBK, by lead and trail byte. -/
def gb18030Extension : Table :=
  ⟨gb18030ExtensionRuns0, []⟩

/-- The four-byte sequence numbers below 39420 that start a run of consecutive code points, each
with the code point it stands for, in increasing order: a number stands for the code point of the
last start at or before it, moved on by its distance from that start. -/
def gb18030Ranges : Array (Nat × Nat) := #[
  (0, 0x0080), (36, 0x00A5), (38, 0x00A9), (45, 0x00B2), (50, 0x00B8), (81, 0x00D8),
  (89, 0x00E2), (95, 0x00EB), (96, 0x00EE), (100, 0x00F4), (103, 0x00F8), (104, 0x00FB),
  (105, 0x00FD), (109, 0x0102), (126, 0x0114), (133, 0x011C), (148, 0x012C), (172, 0x0145),
  (175, 0x0149), (179, 0x014E), (208, 0x016C), (306, 0x01CF), (307, 0x01D1), (308, 0x01D3),
  (309, 0x01D5), (310, 0x01D7), (311, 0x01D9), (312, 0x01DB), (313, 0x01DD), (341, 0x01FA),
  (428, 0x0252), (443, 0x0262), (544, 0x02C8), (545, 0x02CC), (558, 0x02DA), (741, 0x03A2),
  (742, 0x03AA), (749, 0x03C2), (750, 0x03CA), (805, 0x0402), (819, 0x0450), (820, 0x0452),
  (7922, 0x2011), (7924, 0x2017), (7925, 0x201A), (7927, 0x201E), (7934, 0x2027), (7943, 0x2031),
  (7944, 0x2034), (7945, 0x2036), (7950, 0x203C), (8062, 0x20AD), (8148, 0x2104), (8149, 0x2106),
  (8152, 0x210A), (8164, 0x2117), (8174, 0x2122), (8236, 0x216C), (8240, 0x217A), (8262, 0x2194),
  (8264, 0x219A), (8374, 0x2209), (8380, 0x2210), (8381, 0x2212), (8384, 0x2216), (8388, 0x221B),
  (8390, 0x2221), (8392, 0x2224), (8393, 0x2226), (8394, 0x222C), (8396, 0x222F), (8401, 0x2238),
  (8406, 0x223E), (8416, 0x2249), (8419, 0x224D), (8424, 0x2253), (8437, 0x2262), (8439, 0x2268),
  (8445, 0x2270), (8482, 0x2296), (8485, 0x229A), (8496, 0x22A6), (8521, 0x22C0), (8603, 0x2313),
  (8936, 0x246A), (8946, 0x249C), (9046, 0x254C), (9050, 0x2574), (9063, 0x2590), (9066, 0x2596),
  (9076, 0x25A2), (9092, 0x25B4), (9100, 0x25BE), (9108, 0x25C8), (9111, 0x25CC), (9113, 0x25D0),
  (9131, 0x25E6), (9162, 0x2607), (9164, 0x260A), (9218, 0x2641), (9219, 0x2643), (11329, 0x2E82),
  (11331, 0x2E85), (11334, 0x2E89), (11336, 0x2E8D), (11346, 0x2E98), (11361, 0x2EA8), (11363, 0x2EAB),
  (11366, 0x2EAF), (11370, 0x2EB4), (11372, 0x2EB8), (11375, 0x2EBC), (11389, 0x2ECB), (11682, 0x2FFC),
  (11686, 0x3004), (11687, 0x3018), (11692, 0x301F), (11694, 0x302A), (11714, 0x303F), (11716, 0x3094),
  (11723, 0x309F), (11725, 0x30F7), (11730, 0x30FF), (11736, 0x312A), (11982, 0x322A), (11989, 0x3232),
  (12102, 0x32A4), (12336, 0x3390), (12348, 0x339F), (12350, 0x33A2), (12384, 0x33C5), (12393, 0x33CF),
  (12395, 0x33D3), (12397, 0x33D6), (12510, 0x3448), (12553, 0x3474), (12851, 0x359F), (12962, 0x360F),
  (12973, 0x361B), (13738, 0x3919), (13823, 0x396F), (13919, 0x39D1), (13933, 0x39E0), (14080, 0x3A74),
  (14298, 0x3B4F), (14585, 0x3C6F), (14698, 0x3CE1), (15583, 0x4057), (15847, 0x4160), (16318, 0x4338),
  (16434, 0x43AD), (16438, 0x43B2), (16481, 0x43DE), (16729, 0x44D7), (17102, 0x464D), (17122, 0x4662),
  (17315, 0x4724), (17320, 0x472A), (17402, 0x477D), (17418, 0x478E), (17859, 0x4948), (17909, 0x497B),
  (17911, 0x497E), (17915, 0x4984), (17916, 0x4987), (17936, 0x499C), (17939, 0x49A0), (17961, 0x49B8),
  (18664, 0x4C78), (18703, 0x4CA4), (18814, 0x4D1A), (18962, 0x4DAF), (19043, 0x9FA6), (33469, 0xE76C),
  (33470, 0xE7C8), (33471, 0xE7E7), (33484, 0xE815), (33485, 0xE819), (33490, 0xE81F), (33497, 0xE827),
  (33501, 0xE82D), (33505, 0xE833), (33513, 0xE83C), (33520, 0xE844), (33536, 0xE856), (33550, 0xE865),
  (37845, 0xF92D), (37921, 0xF97A), (37948, 0xF996), (38029, 0xF9E8), (38038, 0xF9F2), (38064, 0xFA10),
  (38065, 0xFA12), (38066, 0xFA15), (38069, 0xFA19), (38075, 0xFA22), (38076, 0xFA25), (38078, 0xFA2A),
  (39108, 0xFE32), (39109, 0xFE45), (39113, 0xFE53), (39114, 0xFE58), (39115, 0xFE67), (39116, 0xFE6C),
  (39265, 0xFF5F), (39394, 0xFFE6)]

end Charset

end OccurrenceScan
